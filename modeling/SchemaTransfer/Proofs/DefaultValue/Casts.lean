import SchemaTransfer.DefaultValue
import SchemaTransfer.Proofs.Text.Cutting

/-!
# Casts that are dropped

An expression is balanced when its literals are closed and its parentheses outside of literals
match. A default that is passed through is what stands before the first double colon, and goes
together with the name of a type whose cast can be dropped; with the cast goes everything from the
first parenthesis after the colons on. Main statement: of a balanced default, what is passed through
is a balanced operand of a single cast exactly when no more goes with the type than one modifier
between parentheses.
-/

namespace SchemaTransfer.DefaultValue

/-! ## Balanced texts -/

/-- Where the reader of an expression stands: whether a literal is open, and how many
parentheses. -/
structure Nesting where
  inLiteral : Bool := false
  depth : Nat := 0
  deriving DecidableEq

namespace Nesting

/-- Reads one character. A quote opens a literal or closes the open one; one that is written twice
closes a literal and opens it again. Parentheses count outside of literals, and a closing one needs
an open one. -/
def read (n : Nesting) (c : Char) : Option Nesting :=
  if c = '\'' then some { n with inLiteral := !n.inLiteral }
  else if n.inLiteral then some n
  else if c = '(' then some { n with depth := n.depth + 1 }
  else if c = ')' then if n.depth = 0 then none else some { n with depth := n.depth - 1 }
  else some n

/-- Reads a text. -/
def readAll (n : Nesting) (cs : List Char) : Option Nesting := cs.foldlM read n

theorem readAll_cons (n : Nesting) (c : Char) (cs : List Char) :
    n.readAll (c :: cs) = (n.read c).bind fun m => m.readAll cs := rfl

theorem readAll_append (n : Nesting) (cs more : List Char) :
    n.readAll (cs ++ more) = (n.readAll cs).bind fun m => m.readAll more :=
  List.foldlM_append

/-- A quote written twice inside a literal leaves it open. -/
theorem readAll_doubled_quote (depth : Nat) (cs : List Char) :
    (Nesting.mk true depth).readAll ('\'' :: '\'' :: cs) = (Nesting.mk true depth).readAll cs :=
  rfl

/-- Characters that are neither quotes nor parentheses change nothing. -/
theorem readAll_of_plain (n : Nesting) {cs : List Char}
    (h : ∀ c ∈ cs, c ≠ '\'' ∧ c ≠ '(' ∧ c ≠ ')') : n.readAll cs = some n := by
  induction cs with
  | nil => rfl
  | cons c cs ih =>
    obtain ⟨hquote, hopen, hclose⟩ := h c (List.mem_cons_self ..)
    have hread : n.read c = some n := by simp [read, hquote, hopen, hclose]
    rw [readAll_cons, hread]
    exact ih fun d hd => h d (List.mem_cons_of_mem _ hd)

/-- One character opens or closes a literal exactly if it is a quote. -/
theorem inLiteral_of_read {n m : Nesting} {c : Char} (h : n.read c = some m) :
    m.inLiteral = (n.inLiteral ^^ decide (c = '\'')) := by
  by_cases hc : c = '\''
  · simp only [read, hc, if_true, Option.some.injEq] at h
    simp [← h, hc]
  · simp only [read, hc, if_false] at h
    simp only [hc, decide_false, Bool.xor_false]
    grind

/-- Whether a literal is open in the end depends on the number of quotes alone. -/
theorem inLiteral_of_readAll {n m : Nesting} {cs : List Char} (h : n.readAll cs = some m) :
    m.inLiteral = (n.inLiteral ^^ decide (cs.count '\'' % 2 = 1)) := by
  induction cs generalizing n with
  | nil =>
    cases h
    simp
  | cons c cs ih =>
    rw [readAll_cons] at h
    obtain ⟨k, hread, hrest⟩ := Option.bind_eq_some_iff.mp h
    rw [ih hrest, inLiteral_of_read hread, Bool.xor_assoc]
    congr 1
    by_cases hc : c = '\''
    · rw [hc, List.count_cons_self]
      rcases Nat.mod_two_eq_zero_or_one (cs.count '\'') with hp | hp
      · simp [hp, Nat.add_mod]
      · simp [hp, Nat.add_mod]
    · simp [hc, List.count_cons_of_ne hc]

/-- What can be read can be read inside further parentheses, which stay open. -/
theorem readAll_deeper {inside inside' : Bool} {depth depth' : Nat} {cs : List Char}
    (h : (Nesting.mk inside depth).readAll cs = some ⟨inside', depth'⟩) (more : Nat) :
    (Nesting.mk inside (depth + more)).readAll cs = some ⟨inside', depth' + more⟩ := by
  induction cs generalizing inside depth with
  | nil =>
    cases h
    rfl
  | cons c cs ih =>
    rw [readAll_cons] at h
    obtain ⟨⟨i, d⟩, hread, hrest⟩ := Option.bind_eq_some_iff.mp h
    have hdeeper : (Nesting.mk inside (depth + more)).read c = some ⟨i, d + more⟩ := by
      unfold read at hread ⊢
      grind
    rw [readAll_cons, hdeeper]
    exact ih hrest

end Nesting

/-- Every literal is closed and the parentheses outside of literals match. -/
def IsBalanced (cs : List Char) : Prop := (Nesting.mk false 0).readAll cs = some ⟨false, 0⟩

instance (cs : List Char) : Decidable (IsBalanced cs) :=
  inferInstanceAs (Decidable (_ = _))

/-- A balanced text leaves the reader outside of literals where it is. -/
theorem IsBalanced.readAll {cs : List Char} (h : IsBalanced cs) (depth : Nat) :
    (Nesting.mk false depth).readAll cs = some ⟨false, depth⟩ := by
  simpa only [Nat.zero_add] using Nesting.readAll_deeper h depth

/-- Balanced texts make a balanced text. -/
theorem IsBalanced.append {cs more : List Char} (h : IsBalanced cs) (hmore : IsBalanced more) :
    IsBalanced (cs ++ more) := by
  rw [IsBalanced, Nesting.readAll_append, h, Option.bind_some, hmore]

/-- Between parentheses a balanced text stays balanced. -/
theorem IsBalanced.parenthesized {cs : List Char} (h : IsBalanced cs) :
    IsBalanced ('(' :: cs ++ [')']) := by
  have hopen : (Nesting.mk false 0).read '(' = some ⟨false, 1⟩ := by decide
  rw [IsBalanced, List.cons_append, Nesting.readAll_cons, hopen, Option.bind_some,
    Nesting.readAll_append, h.readAll 1]
  decide

/-- A text without quotes and parentheses is balanced. -/
theorem isBalanced_of_plain {cs : List Char} (h : ∀ c ∈ cs, c ≠ '\'' ∧ c ≠ '(' ∧ c ≠ ')') :
    IsBalanced cs :=
  Nesting.readAll_of_plain _ h

/-- The front of a balanced text is balanced when its rest is. -/
theorem IsBalanced.of_append {cs more : List Char} (h : IsBalanced (cs ++ more))
    (hmore : IsBalanced more) : IsBalanced cs := by
  rw [IsBalanced, Nesting.readAll_append] at h
  obtain ⟨⟨inside, depth⟩, hfront, hrest⟩ := Option.bind_eq_some_iff.mp h
  have hclosed : inside = false := by
    have heven := Nesting.inLiteral_of_readAll hmore
    have hinside := Nesting.inLiteral_of_readAll hrest
    simp only [Bool.false_xor] at heven
    simpa only [← heven, Bool.xor_false] using hinside.symm
  subst hclosed
  have hdepth := hmore.readAll depth
  rw [hrest] at hdepth
  cases hdepth
  exact hfront

/-! ## One cast -/

/-- Nothing, or a balanced text between parentheses. -/
def IsModifier (cs : List Char) : Prop :=
  cs = [] ∨ ∃ inner, IsBalanced inner ∧ cs = '(' :: inner ++ [')']

/-- An expression is an operand, a double colon, the name of a type whose cast can be dropped, and a
rest. Blanks may stand around the name. -/
def IsCastWith (expr operand rest : List Char) : Prop :=
  ∃ before type after, expr = operand ++ [':', ':'] ++ before ++ type ++ after ++ rest ∧
    (∀ c ∈ before, Text.isBlank c = true) ∧ (∀ c ∈ after, Text.isBlank c = true) ∧
    String.ofList type ∈ droppableCasts

/-- An expression is an operand that is cast to a type whose cast can be dropped, with one modifier
at most. -/
def IsCast (expr operand : List Char) : Prop :=
  ∃ modifier, IsModifier modifier ∧ IsCastWith expr operand modifier

/-- What goes with a cast besides the name of the type: everything from the first parenthesis after
the double colon on. -/
def droppedText (expr : List Char) : List Char :=
  match Text.cutAt? [':', ':'] expr with
  | some (_, cast) => cast.dropWhile (· ≠ '(')
  | none => []

/-- The names of the types have neither quotes nor parentheses. -/
theorem plain_of_mem_droppableCasts {name : String} (h : name ∈ droppableCasts) :
    ∀ c ∈ name.toList, c ≠ '\'' ∧ c ≠ '(' ∧ c ≠ ')' := by
  have hall : (droppableCasts.all fun name =>
      name.toList.all fun c => c != '\'' && c != '(' && c != ')') = true := by
    decide
  intro c hc
  simpa [and_assoc] using List.all_eq_true.mp (List.all_eq_true.mp hall name h) c hc

theorem plain_of_isBlank {c : Char} (h : Text.isBlank c = true) :
    c ≠ '\'' ∧ c ≠ '(' ∧ c ≠ ')' := by
  refine ⟨?_, ?_, ?_⟩ <;> rintro rfl <;> exact absurd h (by decide)

/-- The name of a type with the blanks around it is plain. -/
theorem plain_around {before type after : List Char}
    (hbefore : ∀ c ∈ before, Text.isBlank c = true) (hafter : ∀ c ∈ after, Text.isBlank c = true)
    (htype : String.ofList type ∈ droppableCasts) :
    ∀ c ∈ before ++ type ++ after, c ≠ '\'' ∧ c ≠ '(' ∧ c ≠ ')' := by
  intro c hc
  simp only [List.mem_append] at hc
  rcases hc with (hc | hc) | hc
  · exact plain_of_isBlank (hbefore c hc)
  · exact plain_of_mem_droppableCasts htype c (by simpa using hc)
  · exact plain_of_isBlank (hafter c hc)

theorem IsModifier.isBalanced {cs : List Char} (h : IsModifier cs) : IsBalanced cs := by
  rcases h with rfl | ⟨inner, hinner, rfl⟩
  · rfl
  · exact hinner.parenthesized

/-- What is left of a modifier without the characters before its parenthesis is all of it. -/
theorem IsModifier.dropWhile_eq {cs : List Char} (h : IsModifier cs) :
    cs.dropWhile (· ≠ '(') = cs := by
  rcases h with rfl | ⟨inner, _, rfl⟩
  · rfl
  · simp

/-- The type of a cast is what stands before its first parenthesis, without blanks at its end. -/
theorem castType_eq {cast : List Char} (h : Text.trimEnd cast = cast) :
    castType cast = Text.trimEnd ((Text.trimStart cast).takeWhile (· ≠ '(')) := by
  have hlist := Text.trimList_of_trimEnd h
  unfold castType
  simp only [hlist, Text.cutAt?_singleton]
  cases hdrop : (Text.trimStart cast).dropWhile (· ≠ '(') with
  | cons c rest => rfl
  | nil =>
    have hsplit := List.takeWhile_append_dropWhile (p := (· ≠ '(')) (l := Text.trimStart cast)
    rw [hdrop, List.append_nil] at hsplit
    rw [hsplit]
    exact hlist.symm

/-- What is passed through stands before the first double colon, and the type of the cast can be
dropped. -/
theorem exists_cut_of_ofText {schema raw v : String} (h : ofText schema raw = passThrough v) :
    ∃ cast, Text.cutAt? [':', ':'] (Text.trimList raw.toList) = some (v.toList, cast) ∧
      String.ofList (castType cast) ∈ droppableCasts := by
  unfold ofText ofExpression at h
  split at h
  · split at h <;> cases h
  · split at h
    · rename_i value cast hcut
      split at h
      · rename_i htype
        cases h
        exact ⟨cast, by simpa using hcut, htype⟩
      · cases h
    · split at h
      · cases h
      · split at h
        · cases h
        · split at h <;> cases h

/-- What is passed through is the operand of a cast; what goes with the type is what stands after
its name. -/
theorem isCastWith_droppedText {schema raw v : String} (h : ofText schema raw = passThrough v) :
    IsCastWith (Text.trimList raw.toList) v.toList (droppedText (Text.trimList raw.toList)) := by
  obtain ⟨cast, hcut, htype⟩ := exists_cut_of_ofText h
  have he := Text.eq_of_cutAt? hcut
  have hcast : Text.trimEnd cast = cast := by
    have htrim : Text.trimEnd (Text.trimList raw.toList) = Text.trimList raw.toList :=
      Text.trimEnd_trimEnd _
    rw [he] at htrim
    exact Text.trimEnd_of_append htrim
  obtain ⟨before, hbefore, hstart⟩ := Text.exists_eq_append_trimStart cast
  obtain ⟨after, hafter, hend⟩ :=
    Text.exists_eq_trimEnd_append ((Text.trimStart cast).takeWhile (· ≠ '('))
  rw [← castType_eq hcast] at hend
  have hdropped : droppedText (Text.trimList raw.toList) =
      (Text.trimStart cast).dropWhile (· ≠ '(') := by
    simp only [droppedText, hcut]
    refine (congrArg _ hstart).trans (List.dropWhile_append_of_pos fun c hc => ?_)
    simpa using (plain_of_isBlank (hbefore c hc)).2.1
  have hsplit : cast = before ++ castType cast ++ after ++
      (Text.trimStart cast).dropWhile (· ≠ '(') := by
    rw [List.append_assoc before, ← hend, List.append_assoc, List.takeWhile_append_dropWhile]
    exact hstart
  refine ⟨before, castType cast, after, ?_, hbefore, hafter, htype⟩
  rw [hdropped]
  simpa only [List.append_assoc] using he.trans (congrArg (v.toList ++ [':', ':'] ++ ·) hsplit)

/-- The modifier of a cast of what is passed through is what goes with the type. -/
theorem droppedText_of_isCastWith {expr operand cast modifier : List Char}
    (hcut : Text.cutAt? [':', ':'] expr = some (operand, cast))
    (h : IsCastWith expr operand modifier) (hmodifier : IsModifier modifier) :
    droppedText expr = modifier := by
  obtain ⟨before, type, after, he, hbefore, hafter, htype⟩ := h
  have hcast : cast = before ++ type ++ after ++ modifier := by
    have heq := (Text.eq_of_cutAt? hcut).symm.trans he
    simp only [List.append_assoc] at heq ⊢
    exact List.append_cancel_left (List.append_cancel_left heq)
  simp only [droppedText, hcut, hcast]
  rw [List.dropWhile_append_of_pos, hmodifier.dropWhile_eq]
  intro c hc
  simpa using (plain_around hbefore hafter htype c hc).2.1

/-- Of a balanced default that is passed through, the operand is balanced and the whole is a single
cast of it exactly when no more goes with the type than one modifier. -/
theorem isBalanced_and_isCast_iff {schema raw v : String}
    (hraw : IsBalanced (Text.trimList raw.toList)) (h : ofText schema raw = passThrough v) :
    IsBalanced v.toList ∧ IsCast (Text.trimList raw.toList) v.toList ↔
      IsModifier (droppedText (Text.trimList raw.toList)) := by
  constructor
  · rintro ⟨_, modifier, hmodifier, hcast⟩
    obtain ⟨cast, hcut, _⟩ := exists_cut_of_ofText h
    rwa [droppedText_of_isCastWith hcut hcast hmodifier]
  · intro hmodifier
    have hcast := isCastWith_droppedText h
    refine ⟨?_, _, hmodifier, hcast⟩
    obtain ⟨before, type, after, he, hbefore, hafter, htype⟩ := hcast
    -- What follows the operand is balanced, so the operand is.
    have hrest : IsBalanced ([':', ':'] ++ (before ++ type ++ after) ++
        droppedText (Text.trimList raw.toList)) :=
      ((isBalanced_of_plain (by simp)).append
        (isBalanced_of_plain (plain_around hbefore hafter htype))).append hmodifier.isBalanced
    rw [he] at hraw
    have hwhole : IsBalanced (v.toList ++ ([':', ':'] ++ (before ++ type ++ after) ++
        droppedText (Text.trimList raw.toList))) := by
      simpa only [List.append_assoc] using hraw
    exact hwhole.of_append hrest

/-- A literal with a doubled quote, a double colon and a parenthesis in its neighbourhood. -/
theorem isCast_greeting :
    IsBalanced (Text.trimList " 'it''s ('::character varying(10)".toList) ∧
      ofText "s" " 'it''s ('::character varying(10)" = passThrough "'it''s ('" ∧
      IsBalanced "'it''s ('".toList ∧
      IsCast (Text.trimList " 'it''s ('::character varying(10)".toList) "'it''s ('".toList :=
  have hraw : IsBalanced (Text.trimList " 'it''s ('::character varying(10)".toList) := by decide
  have hpassed : ofText "s" " 'it''s ('::character varying(10)" = passThrough "'it''s ('" := by
    decide
  ⟨hraw, hpassed, (isBalanced_and_isCast_iff hraw hpassed).mpr
    (Or.inr ⟨"10".toList, by decide, by decide⟩)⟩

/-- A parenthesis around a cast is torn apart. -/
theorem not_isBalanced_parenthesizedCast :
    IsBalanced (Text.trimList "('x'::character varying(10))".toList) ∧
      ofText "s" "('x'::character varying(10))" = passThrough "('x'" ∧
      ¬ IsBalanced "('x'".toList := by
  decide

/-- An operator after a modifier goes silently with the cast. -/
example : ofText "s" "'x'::text(3) || 'y'" = passThrough "'x'" := by decide

end SchemaTransfer.DefaultValue
