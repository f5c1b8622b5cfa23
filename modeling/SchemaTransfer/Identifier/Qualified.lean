import SchemaTransfer.Identifier

/-!
# Qualified names as the source prints them

A printed name is a sequence of parts with dots between them. A part stands between double
quotes, with quotes inside it doubled, or bare. Splitting removes the quotes and ignores dots
inside them; a quoted part read from its opening quote gives the part back.
-/

namespace SchemaTransfer.Identifier

/-- The parts of a printed name. The flag tells whether a quote is open, and `part` holds the
characters of the current part in reverse. -/
def splitFrom (inside : Bool) (part : List Char) : List Char → List (List Char)
  | [] => [part.reverse]
  | '"' :: rest =>
    match inside, rest with
    | true, '"' :: rest => splitFrom true ('"' :: part) rest
    | inside, rest => splitFrom (!inside) part rest
  | c :: rest =>
    if c = '.' ∧ inside = false then part.reverse :: splitFrom false [] rest
    else splitFrom inside (c :: part) rest

/-- The parts of a printed name. -/
def splitList (cs : List Char) : List (List Char) := splitFrom false [] cs

/-- The parts of a printed name. -/
def split (name : String) : List String := (splitList name.toList).map String.ofList

/-- Inside quotes, a text with its quotes doubled is read as it is. -/
theorem splitFrom_doubling (part text rest : List Char) (h : ∀ tail, rest ≠ '"' :: tail) :
    splitFrom true part (doubling '"' text ++ '"' :: rest) =
      splitFrom false (text.reverse ++ part) rest := by
  induction text generalizing part with
  | nil =>
    cases rest with
    | nil => simp [doubling, splitFrom]
    | cons d rest =>
      have hd : d ≠ '"' := fun he => h rest (by rw [he])
      simp [doubling, splitFrom, hd]
  | cons c cs ih =>
    by_cases hc : c = '"'
    · subst hc
      simp [doubling, splitFrom, ih]
    · simp [doubling, hc, splitFrom, ih]

end SchemaTransfer.Identifier
