import SchemaTransfer.Text.Quoted

/-!
# Identifiers and their quoted forms

A name is usable as an identifier when it is not empty, holds no null character and has at most
128 characters. A name is written between double quotes for the source, between brackets for the
target, and a text is written as a national string literal; in each form the closing mark inside
the text is written twice. Main statement: each written form can be read back.
-/

namespace SchemaTransfer

namespace Identifier

/-- The greatest number of characters in a name. -/
def maxLength : Nat := 128

/-- Why a name cannot be used. -/
inductive Fault where
  | empty
  | nullCharacter (name : String)
  | tooLong (name : String)
  deriving DecidableEq

/-- The wording of a fault. -/
def Fault.message : Fault → String
  | .empty => "identifier cannot be empty"
  | .nullCharacter name => "identifier contains a null byte: " ++ Text.quoted name
  | .tooLong name =>
    "identifier exceeds " ++ toString maxLength ++ " characters (got " ++
      toString name.toList.length ++ "): " ++ Text.quoted name

/-- The first fault of a name, if it has one. -/
def fault? (name : String) : Option Fault :=
  if name.toList = [] then some .empty
  else if '\x00' ∈ name.toList then some (.nullCharacter name)
  else if maxLength < name.toList.length then some (.tooLong name)
  else none

/-- Whether a name can be used. -/
def isValid (name : String) : Bool := (fault? name).isNone

/-- A usable name, or its fault. -/
def check (name : String) : Except Fault Unit :=
  match fault? name with
  | some fault => .error fault
  | none => .ok ()

/-- The first fault among several names, in their order. -/
def firstFault? (names : List String) : Option Fault := names.findSome? fault?

/-- No fault is found exactly when every name is usable. -/
theorem firstFault?_eq_none_iff (names : List String) :
    firstFault? names = none ↔ ∀ name ∈ names, isValid name = true := by
  simp [firstFault?, isValid]

/-! ## Doubling a closing mark -/

/-- Writes every occurrence of a mark twice. -/
def doubling (mark : Char) : List Char → List Char
  | [] => []
  | c :: cs => if c = mark then mark :: mark :: doubling mark cs else c :: doubling mark cs

/-- Reads up to the first mark that stands alone: the text before it and the rest after it. -/
def readDoubled (mark : Char) : List Char → Option (List Char × List Char)
  | [] => none
  | [c] => if c = mark then some ([], []) else none
  | c :: d :: rest =>
    if c = mark then
      if d = mark then (readDoubled mark rest).map fun r => (mark :: r.1, r.2)
      else some ([], d :: rest)
    else (readDoubled mark (d :: rest)).map fun r => (c :: r.1, r.2)

/-- Reading stops at the closing mark and gives the text back, if the rest does not extend it. -/
theorem readDoubled_doubling (mark : Char) (text rest : List Char)
    (h : ∀ tail, rest ≠ mark :: tail) :
    readDoubled mark (doubling mark text ++ mark :: rest) = some (text, rest) := by
  induction text with
  | nil =>
    cases rest with
    | nil => simp [doubling, readDoubled]
    | cons d rest =>
      have hd : d ≠ mark := fun he => h rest (by rw [he])
      simp [doubling, readDoubled, hd]
  | cons c cs ih =>
    by_cases hc : c = mark
    · simp [doubling, readDoubled, hc, ih]
    · cases hcs : doubling mark cs ++ mark :: rest with
      | nil => simp at hcs
      | cons d tail =>
        rw [hcs] at ih
        simp [doubling, hc, hcs, readDoubled, ih]

/-! ## Written forms -/

/-- A name between double quotes, as the source writes it. -/
def inQuotes (name : String) : String :=
  String.ofList (['"'] ++ doubling '"' name.toList ++ ['"'])

/-- A name between brackets, as the target writes it. -/
def inBrackets (name : String) : String :=
  String.ofList (['['] ++ doubling ']' name.toList ++ [']'])

/-- A text as a national string literal of the target. -/
def literal (text : String) : String :=
  String.ofList (['N', '\''] ++ doubling '\'' text.toList ++ ['\''])

@[simp] theorem toList_inQuotes (name : String) :
    (inQuotes name).toList = ['"'] ++ doubling '"' name.toList ++ ['"'] := by
  simp [inQuotes]

@[simp] theorem toList_inBrackets (name : String) :
    (inBrackets name).toList = ['['] ++ doubling ']' name.toList ++ [']'] := by
  simp [inBrackets]

@[simp] theorem toList_literal (text : String) :
    (literal text).toList = ['N', '\''] ++ doubling '\'' text.toList ++ ['\''] := by
  simp [literal]

/-- A usable name in a written form, or its fault. -/
def written (form : String → String) (name : String) : Except Fault String :=
  match fault? name with
  | some fault => .error fault
  | none => .ok (form name)

/-- A name with its schema, both in a written form; the schema is checked first. -/
def qualified (form : String → String) (schema name : String) : Except Fault String :=
  match written form schema, written form name with
  | .error fault, _ => .error fault
  | .ok _, .error fault => .error fault
  | .ok s, .ok n => .ok (s ++ "." ++ n)

end Identifier

end SchemaTransfer
