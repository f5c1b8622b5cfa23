import SchemaTransfer.Proofs.DefaultValue.Casts

/-!
# Calls for the next value

A default becomes the next value of a sequence when it begins like a call and its first literal
names a sequence. What stands after that literal is not looked at, so whatever follows a call goes
lost with it. Main statement: a default that is read so is a single call exactly when nothing
follows the parenthesis that closes the call; with any text after it, it is read as the same
sequence.
-/

namespace SchemaTransfer.DefaultValue

/-- One call of `nextval` and nothing else. -/
def IsSingleCall (cs : List Char) : Prop :=
  ∃ inner, IsBalanced inner ∧ cs = "nextval(".toList ++ (inner ++ [')'])

/-! ## The parenthesis that closes a call -/

/-- What stands after the first closing parenthesis without an open one. -/
def afterClosing? (n : Nesting) : List Char → Option (List Char)
  | [] => none
  | c :: cs =>
    match n.read c with
    | some m => afterClosing? m cs
    | none => some cs

/-- Only a closing parenthesis without an open one cannot be read. -/
theorem Nesting.read_eq_none_iff {n : Nesting} {c : Char} :
    n.read c = none ↔ n = ⟨false, 0⟩ ∧ c = ')' := by
  obtain ⟨inLiteral, depth⟩ := n
  simp only [read, Nesting.mk.injEq]
  grind

/-- Up to the closing parenthesis the text closes all that it and the text before it opened. -/
theorem afterClosing?_eq_some_iff {n : Nesting} {cs rest : List Char} :
    afterClosing? n cs = some rest ↔
      ∃ inner, n.readAll inner = some ⟨false, 0⟩ ∧ cs = inner ++ ')' :: rest := by
  induction cs generalizing n with
  | nil => simp [afterClosing?]
  | cons c cs ih =>
    cases hread : n.read c with
    | none =>
      obtain ⟨rfl, rfl⟩ := Nesting.read_eq_none_iff.mp hread
      simp only [afterClosing?, hread, Option.some.injEq]
      constructor
      · rintro rfl
        exact ⟨[], rfl, rfl⟩
      · rintro ⟨_ | ⟨d, inner⟩, hinner, he⟩
        · exact (List.cons.inj he).2
        · obtain ⟨rfl, -⟩ := List.cons.inj he
          rw [Nesting.readAll_cons, hread] at hinner
          cases hinner
    | some m =>
      simp only [afterClosing?, hread, ih]
      constructor
      · rintro ⟨inner, hinner, rfl⟩
        exact ⟨c :: inner, by rwa [Nesting.readAll_cons, hread], rfl⟩
      · rintro ⟨_ | ⟨d, inner⟩, hinner, he⟩
        · obtain ⟨rfl, -⟩ := List.cons.inj he
          obtain rfl := Option.some.inj hinner
          cases hread
        · obtain ⟨rfl, rfl⟩ := List.cons.inj he
          rw [Nesting.readAll_cons, hread] at hinner
          exact ⟨inner, hinner, rfl⟩

/-- What stands after the parenthesis that closes a call, if a text begins with one. -/
def afterCall? (cs : List Char) : Option (List Char) :=
  (Text.afterBeginning? "nextval(".toList cs).bind (afterClosing? ⟨false, 0⟩)

theorem afterCall?_eq_some_iff {cs rest : List Char} :
    afterCall? cs = some rest ↔
      ∃ inner, IsBalanced inner ∧ cs = "nextval(".toList ++ (inner ++ ')' :: rest) := by
  simp only [afterCall?, Option.bind_eq_some_iff, Text.afterBeginning?_eq_some_iff,
    afterClosing?_eq_some_iff]
  constructor
  · rintro ⟨_, rfl, inner, hinner, rfl⟩
    exact ⟨inner, hinner, rfl⟩
  · rintro ⟨inner, hinner, rfl⟩
    exact ⟨_, rfl, inner, hinner, rfl⟩

/-- A text is a single call exactly when it begins with a call and ends with that. -/
theorem isSingleCall_iff {cs : List Char} : IsSingleCall cs ↔ afterCall? cs = some [] :=
  afterCall?_eq_some_iff.symm

instance (cs : List Char) : Decidable (IsSingleCall cs) :=
  decidable_of_iff _ isSingleCall_iff.symm

/-- What follows a single call stands after it. -/
theorem IsSingleCall.afterCall?_append {cs : List Char} (h : IsSingleCall cs) (more : List Char) :
    afterCall? (cs ++ more) = some more := by
  obtain ⟨inner, hinner, rfl⟩ := h
  exact afterCall?_eq_some_iff.mpr ⟨inner, hinner, by simp⟩

/-! ## The literal that names the sequence -/

/-- The sequence of a name in parts; a name without a schema belongs to the given one. -/
def sequenceOfParts? (schema : String) : List (List Char) → Option (String × String)
  | [sequence] => some (schema, String.ofList sequence)
  | [owner, sequence] => some (String.ofList owner, String.ofList sequence)
  | _ => none

/-- The sequence that a printed name stands for. -/
def sequenceOf? (schema : String) (name : List Char) : Option (String × String) :=
  if Text.trimList name = [] then none
  else sequenceOfParts? schema (Identifier.splitList (Text.trimList name))

theorem firstLiteral?_eq_some_iff {cs inner : List Char} :
    firstLiteral? cs = some inner ↔ ∃ front rest,
      cs = front ++ '\'' :: (inner ++ '\'' :: rest) ∧ '\'' ∉ front ∧ '\'' ∉ inner := by
  simp only [firstLiteral?, Option.bind_eq_bind, Option.bind_eq_some_iff, Option.pure_def,
    Option.some.injEq, Prod.exists, Text.cutAt?_singleton_eq_some_iff]
  constructor
  · rintro ⟨front, _, ⟨rfl, hfront⟩, _, rest, ⟨rfl, hinner⟩, rfl⟩
    exact ⟨front, rest, rfl, hfront, hinner⟩
  · rintro ⟨front, rest, rfl, hfront, hinner⟩
    exact ⟨front, _, ⟨rfl, hfront⟩, inner, rest, ⟨rfl, hinner⟩, rfl⟩

theorem calledSequence?_eq (schema : String) (call : List Char) :
    calledSequence? schema call = (firstLiteral? call).bind (sequenceOf? schema) := by
  cases hliteral : firstLiteral? call with
  | none => simp [calledSequence?, hliteral]
  | some inner =>
    simp only [calledSequence?, hliteral, sequenceOf?, Option.bind_eq_bind, Option.bind_some]
    cases Text.trimList inner with
    | nil => rfl
    | cons c cs =>
      rw [if_neg (List.cons_ne_nil c cs)]
      dsimp only
      rcases Identifier.splitList (c :: cs) with _ | ⟨first, _ | ⟨second, _ | ⟨third, more⟩⟩⟩ <;>
        rfl

/-- Only what begins like a call becomes the next value of a sequence. -/
theorem ofExpression_eq_nextValue_iff {schema a b : String} {expr : List Char} :
    ofExpression schema expr = nextValue a b ↔
      (∃ more, expr = "nextval(".toList ++ more) ∧ calledSequence? schema expr = some (a, b) := by
  simp only [← Text.afterBeginning?_eq_some_iff, ← Option.isSome_iff_exists, ofExpression]
  split
  · rename_i hcall
    rw [and_iff_right hcall]
    cases calledSequence? schema expr with
    | none => simp
    | some names => simp [Prod.ext_iff]
  · rename_i hcall
    refine iff_of_false (fun h => ?_) fun h => hcall h.1
    repeat' split at h
    all_goals cases h

/-- A default becomes the next value of a sequence exactly when it begins like a call and its first
literal names the sequence. -/
theorem ofText_eq_nextValue_iff {schema raw a b : String} :
    ofText schema raw = nextValue a b ↔ ∃ front name rest,
      Text.trimList raw.toList =
        "nextval(".toList ++ (front ++ '\'' :: (name ++ '\'' :: rest)) ∧
      '\'' ∉ front ∧ '\'' ∉ name ∧ sequenceOf? schema name = some (a, b) := by
  simp only [ofText, ofExpression_eq_nextValue_iff, calledSequence?_eq, Option.bind_eq_some_iff,
    firstLiteral?_eq_some_iff]
  constructor
  · rintro ⟨⟨more, hcall⟩, name, ⟨front, rest, he, hfront, hname⟩, hsequence⟩
    -- There is no quote in the beginning of a call, so the literal stands after it.
    rw [he, List.append_eq_append_iff] at hcall
    rcases hcall with ⟨within, hcall, hrest⟩ | ⟨within, rfl, hrest⟩
    · cases within with
      | nil =>
        rw [List.append_nil] at hcall
        exact ⟨[], name, rest, by rw [he, ← hcall]; rfl, List.not_mem_nil, hname, hsequence⟩
      | cons c within =>
        rw [← (List.cons.inj hrest).1] at hcall
        have hquote : '\'' ∈ "nextval(".toList := by rw [hcall]; simp
        exact absurd hquote (by decide)
    · refine ⟨within, name, rest, by rw [he, List.append_assoc], ?_, hname, hsequence⟩
      exact fun h => hfront (List.mem_append_right _ h)
  · rintro ⟨front, name, rest, he, hfront, hname, hsequence⟩
    refine ⟨⟨_, he⟩, name, ⟨"nextval(".toList ++ front, rest, ?_, ?_, hname⟩, hsequence⟩
    · rw [he, List.append_assoc]
    · rw [List.mem_append, not_or]
      exact ⟨by decide, hfront⟩

/-! ## What follows a call -/

/-- What follows a default that becomes the next value of a sequence is not looked at. -/
theorem ofText_append_of_nextValue {schema raw a b : String} (h : ofText schema raw = nextValue a b)
    (more : String) : ofText schema (raw ++ more) = nextValue a b := by
  obtain ⟨front, name, rest, he, hfront, hname, hsequence⟩ := ofText_eq_nextValue_iff.mp h
  obtain ⟨before, after, hbefore, -, hraw⟩ := Text.exists_eq_append_trimList_append raw.toList
  -- The text up to the literal's end is trimmed nowhere.
  have hend : Text.trimEnd ("nextval(".toList ++ (front ++ '\'' :: (name ++ ['\'']))) =
      "nextval(".toList ++ (front ++ '\'' :: (name ++ ['\''])) := by
    have hquote := Text.trimEnd_append_cons (c := '\'') (by decide)
      ("nextval(".toList ++ (front ++ '\'' :: name)) []
    simpa using hquote
  refine ofText_eq_nextValue_iff.mpr
    ⟨front, name, Text.trimEnd (rest ++ (after ++ more.toList)), ?_, hfront, hname, hsequence⟩
  have htrim := Text.trimList_append hbefore rfl hend (by simp) (rest ++ (after ++ more.toList))
  rw [String.toList_append, hraw, he]
  simpa using htrim

/-- With a text after it, a single call is one exactly when the text is blank. -/
theorem IsSingleCall.append_iff {raw : List Char} (h : IsSingleCall (Text.trimList raw))
    (more : List Char) :
    IsSingleCall (Text.trimList (raw ++ more)) ↔ ∀ c ∈ more, Text.isBlank c = true := by
  obtain ⟨before, after, hbefore, hafter, hraw⟩ := Text.exists_eq_append_trimList_append raw
  have hne : Text.trimList raw ≠ [] := by
    obtain ⟨inner, _, he⟩ := h
    simp [he]
  have htrim : Text.trimList (raw ++ more) =
      Text.trimList raw ++ Text.trimEnd (after ++ more) := by
    have happend := Text.trimList_append hbefore (Text.trimStart_trimList raw)
      (Text.trimEnd_trimEnd _) hne (after ++ more)
    rw [← happend]
    conv_lhs => rw [hraw]
    simp only [List.append_assoc]
  rw [isSingleCall_iff, htrim, h.afterCall?_append, Option.some.injEq, Text.trimEnd_eq_nil_iff]
  simp only [List.mem_append]
  exact ⟨fun hblank c hc => hblank c (Or.inr hc), fun hblank c hc => hc.elim (hafter c) (hblank c)⟩

/-- A default that becomes the next value of a sequence is a single call exactly when nothing
follows the parenthesis that closes the call. With any text after it the default becomes the next
value of the same sequence, although a single call with a text after it is none unless the text is
blank. -/
theorem isSingleCall_iff_of_nextValue {schema raw a b : String}
    (h : ofText schema raw = nextValue a b) :
    (IsSingleCall (Text.trimList raw.toList) ↔ afterCall? (Text.trimList raw.toList) = some []) ∧
      ∀ more : String, ofText schema (raw ++ more) = nextValue a b ∧
        (IsSingleCall (Text.trimList raw.toList) →
          (IsSingleCall (Text.trimList (raw ++ more).toList) ↔
            ∀ c ∈ more.toList, Text.isBlank c = true)) := by
  refine ⟨isSingleCall_iff, fun more => ⟨ofText_append_of_nextValue h more, fun hcall => ?_⟩⟩
  rw [String.toList_append]
  exact hcall.append_iff more.toList

/-- A call with parentheses in it and blanks around it. -/
theorem isSingleCall_nested :
    ofText "s" " nextval(('q'::text)::regclass) " = nextValue "s" "q" ∧
      afterCall? (Text.trimList " nextval(('q'::text)::regclass) ".toList) = some [] ∧
      IsSingleCall (Text.trimList " nextval(('q'::text)::regclass) ".toList) ∧
      ofText "s" (" nextval(('q'::text)::regclass) " ++ "+ 1") = nextValue "s" "q" := by
  have hread : ofText "s" " nextval(('q'::text)::regclass) " = nextValue "s" "q" := by decide
  have hafter : afterCall? (Text.trimList " nextval(('q'::text)::regclass) ".toList) = some [] := by
    decide
  obtain ⟨hcall, hmore⟩ := isSingleCall_iff_of_nextValue hread
  exact ⟨hread, hafter, hcall.mpr hafter, (hmore "+ 1").1⟩

/-- A sum of the next value and another number becomes the next value alone. -/
theorem not_isSingleCall_sum :
    ofText "s" "nextval('q'::regclass) + 1" = nextValue "s" "q" ∧
      ¬ IsSingleCall (Text.trimList "nextval('q'::regclass) + 1".toList) := by
  decide

end SchemaTransfer.DefaultValue
