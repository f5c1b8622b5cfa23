import SchemaTransfer.Proofs.Statement.Parts

/-!
# Reading the text of a statement

The text of a statement is read by the lexical rules of the target. A bracket opens a name that
ends at the first closing bracket not followed by another, and `N'` opens a literal that ends at
the first quote not followed by another; a doubled mark stands for itself. Main statement: the
text of parts whose words hold no mark is read as the lexemes of the parts, whatever the names
and texts are.
-/

namespace SchemaTransfer

/-- What a reader of the target sees: a character outside quotes, a name or a literal. -/
inductive Lexeme where
  | mark (c : Char)
  | name (text : String)
  | literal (text : String)
  deriving DecidableEq

namespace Identifier

/-- What follows a closing mark is shorter than what was read. -/
theorem length_lt_of_readDoubled {mark : Char} {cs text rest : List Char}
    (h : readDoubled mark cs = some (text, rest)) : rest.length < cs.length := by
  fun_induction readDoubled mark cs generalizing text with
  | case1 => cases h
  | case2 => cases h; simp
  | case3 => cases h
  | case4 tail ih =>
    obtain ⟨⟨t, r⟩, hr, heq⟩ := Option.map_eq_some_iff.mp h
    obtain ⟨-, rfl⟩ := Prod.mk.inj heq
    have := ih hr
    simp only [List.length_cons] at this ⊢
    omega
  | case5 => cases h; simp
  | case6 c d tail _ ih =>
    obtain ⟨⟨t, r⟩, hr, heq⟩ := Option.map_eq_some_iff.mp h
    obtain ⟨-, rfl⟩ := Prod.mk.inj heq
    have := ih hr
    simp only [List.length_cons] at this ⊢
    omega

end Identifier

namespace Lexeme

/-- Reads a text. A closing mark where nothing is open is not read. -/
def read? : List Char → Option (List Lexeme)
  | [] => some []
  | '[' :: cs =>
    match h : Identifier.readDoubled ']' cs with
    | none => none
    | some (text, rest) =>
      have := Identifier.length_lt_of_readDoubled h
      (read? rest).map (name (String.ofList text) :: ·)
  | 'N' :: '\'' :: cs =>
    match h : Identifier.readDoubled '\'' cs with
    | none => none
    | some (text, rest) =>
      have := Identifier.length_lt_of_readDoubled h
      (read? rest).map (literal (String.ofList text) :: ·)
  | c :: cs => if c = ']' ∨ c = '\'' then none else (read? cs).map (mark c :: ·)
termination_by cs => cs.length

/-- The characters of a text outside quotes. -/
def marks (text : String) : List Lexeme := text.toList.map mark

/-- Whether a character opens or closes quotes. -/
def isDelimiter (c : Char) : Bool := c == '[' || c == ']' || c == '\''

/-- Whether a text extends quotes that end right before it. -/
def Extends (cs : List Char) : Prop := ∃ tail, cs = ']' :: tail ∨ cs = '\'' :: tail

/-- A name in brackets is read as the name. -/
theorem read?_inBrackets {rest : List Char} {more : List Lexeme} (text : String)
    (hrest : ¬ Extends rest) (h : read? rest = some more) :
    read? ((Identifier.inBrackets text).toList ++ rest) = some (name text :: more) := by
  have hname : Identifier.readDoubled ']' (Identifier.doubling ']' text.toList ++ ']' :: rest) =
      some (text.toList, rest) :=
    Identifier.readDoubled_doubling ']' text.toList rest
      fun tail he => hrest ⟨tail, Or.inl he⟩
  rw [Identifier.toList_inBrackets]
  simp only [List.append_assoc, List.cons_append, List.nil_append]
  rw [read?]
  split
  · simp_all
  · simp_all

/-- A literal is read as its text. -/
theorem read?_literal {rest : List Char} {more : List Lexeme} (text : String)
    (hrest : ¬ Extends rest) (h : read? rest = some more) :
    read? ((Identifier.literal text).toList ++ rest) = some (literal text :: more) := by
  have htext : Identifier.readDoubled '\'' (Identifier.doubling '\'' text.toList ++ '\'' :: rest) =
      some (text.toList, rest) :=
    Identifier.readDoubled_doubling '\'' text.toList rest
      fun tail he => hrest ⟨tail, Or.inr he⟩
  rw [Identifier.toList_literal]
  simp only [List.append_assoc, List.cons_append, List.nil_append]
  rw [read?]
  split
  · simp_all
  · simp_all

/-- Characters that open and close nothing are read as they are. -/
theorem read?_marks {rest : List Char} {more : List Lexeme} (cs : List Char)
    (hcs : cs.all (fun c => !isDelimiter c) = true) (hrest : ¬ Extends rest)
    (h : read? rest = some more) : read? (cs ++ rest) = some (cs.map mark ++ more) := by
  induction cs with
  | nil => simpa using h
  | cons c cs ih =>
    simp only [List.all_cons, Bool.and_eq_true] at hcs
    have hnext : ¬ Extends (cs ++ rest) := by
      cases cs with
      | nil => exact hrest
      | cons d tail =>
        simp [isDelimiter] at hcs
        simp [Extends, hcs]
    obtain ⟨hopen, hclose, hquote⟩ : c ≠ '[' ∧ c ≠ ']' ∧ c ≠ '\'' := by
      simpa [isDelimiter, and_assoc] using hcs.1
    rw [List.cons_append, read?]
    · simp [hclose, hquote, ih hcs.2]
    · exact hopen
    · rintro tail rfl he
      exact hnext ⟨tail, Or.inr he⟩

end Lexeme

namespace Part

/-- What a part is read as. -/
def lexemes : Part → List Lexeme
  | words text => Lexeme.marks text
  | keyword text => [.literal text]
  | name text => [.name text]
  | literal text => [.literal text]
  | lookup object => [.literal object.text]
  | raw text => Lexeme.marks text

/-- Whether a part keeps apart from its neighbours: words without marks, or anything in quotes. -/
def isReadable : Part → Bool
  | words text => text.toList.all fun c => !Lexeme.isDelimiter c
  | raw _ => false
  | _ => true

/-- The text of readable parts does not extend quotes that end before it. -/
theorem not_extends_text {parts : List Part} (h : ∀ p ∈ parts, p.isReadable = true) :
    ¬ Lexeme.Extends (text parts).toList := by
  induction parts with
  | nil => simp [Lexeme.Extends]
  | cons p parts ih =>
    have hrest := ih fun q hq => h q (List.mem_cons_of_mem p hq)
    rw [text_cons, String.toList_append]
    cases p with
    | words text =>
      have hwords := h (.words text) List.mem_cons_self
      simp only [isReadable] at hwords
      cases htext : text.toList with
      | nil => simpa [written, htext] using hrest
      | cons c cs =>
        simp [htext, Lexeme.isDelimiter] at hwords
        simp [written, htext, Lexeme.Extends, hwords]
    | raw text => simpa [isReadable] using h (.raw text) List.mem_cons_self
    | _ => simp [written, Lexeme.Extends, ObjectName.literal]

/-- Readable parts are read back, whatever stands between their quotes. -/
theorem read?_text {parts : List Part} (h : ∀ p ∈ parts, p.isReadable = true) :
    Lexeme.read? (text parts).toList = some (parts.flatMap lexemes) := by
  induction parts with
  | nil => simp [Lexeme.read?]
  | cons p parts ih =>
    have htail : ∀ q ∈ parts, q.isReadable = true := fun q hq => h q (List.mem_cons_of_mem p hq)
    have hrest := not_extends_text htail
    rw [text_cons, String.toList_append, List.flatMap_cons]
    cases p with
    | words text =>
      exact Lexeme.read?_marks text.toList (h (.words text) List.mem_cons_self) hrest (ih htail)
    | keyword text => exact Lexeme.read?_literal text hrest (ih htail)
    | name text => exact Lexeme.read?_inBrackets text hrest (ih htail)
    | literal text => exact Lexeme.read?_literal text hrest (ih htail)
    | lookup object => exact Lexeme.read?_literal object.text hrest (ih htail)
    | raw text => simpa [isReadable] using h (.raw text) List.mem_cons_self

/-- The literal by which an object is looked up is read again as its schema and its name. -/
theorem read?_objectText (n : ObjectName) :
    Lexeme.read? n.text.toList = some [.name n.schema, .mark '.', .name n.name] := by
  rw [← text_object, read?_text (by simp [object, isReadable, Lexeme.isDelimiter])]
  rfl

end Part

end SchemaTransfer
