import SchemaTransfer.Identifier.Qualified
import SchemaTransfer.Text.Find

/-!
# Printed names and their parts

The source prints a qualified name part by part, with dots between the parts. Each part stands
between double quotes, with the quotes in it doubled, or bare if it has neither a dot nor a quote.
Main statement: splitting a printed name gives its parts back, in whichever way each of them is
printed.
-/

namespace SchemaTransfer.Identifier

/-- A part as it is printed: any text between quotes, or a text without dots and quotes bare. -/
inductive PrintedPart where
  | quoted (name : String)
  | bare (name : String) (hplain : ∀ c ∈ name.toList, c ≠ '.' ∧ c ≠ '"')

/-- Outside quotes, what has neither a dot nor a quote is read as it is. -/
theorem splitFrom_append {cs : List Char} (hcs : ∀ c ∈ cs, c ≠ '.' ∧ c ≠ '"')
    (part rest : List Char) :
    splitFrom false part (cs ++ rest) = splitFrom false (cs.reverse ++ part) rest := by
  induction cs generalizing part with
  | nil => rfl
  | cons c cs ih =>
    obtain ⟨⟨hdot, hquote⟩, hcs⟩ := List.forall_mem_cons.mp hcs
    rw [List.cons_append, splitFrom]
    · rw [if_neg fun h => hdot h.1, ih hcs, List.reverse_cons, List.append_assoc,
        List.singleton_append]
    · exact hquote

namespace PrintedPart

/-- The text that is printed. -/
def text : PrintedPart → String
  | quoted name => inQuotes name
  | bare name _ => name

/-- The text that is meant. -/
def name : PrintedPart → String
  | quoted name => name
  | bare name _ => name

/-- A printed part is read up to what ends it, which is no quote: after one that closes the part, a
quote would be read as doubled. -/
theorem splitFrom_text (p : PrintedPart) {rest : List Char} (hrest : ∀ tail, rest ≠ '"' :: tail) :
    splitFrom false [] (p.text.toList ++ rest) = splitFrom false p.name.toList.reverse rest := by
  cases p with
  | quoted name =>
    have hread := splitFrom_doubling [] name.toList rest hrest
    rw [List.append_nil] at hread
    simp only [text, PrintedPart.name, toList_inQuotes]
    rw [← hread]
    simp [splitFrom]
  | bare name hplain =>
    simp only [text, PrintedPart.name]
    rw [splitFrom_append hplain, List.append_nil]

/-- A printed part is a name of one part. -/
theorem splitList_text (p : PrintedPart) : splitList p.text.toList = [p.name.toList] := by
  have hread := p.splitFrom_text (show ∀ tail, [] ≠ '"' :: tail by simp)
  rw [List.append_nil] at hread
  rw [splitList, hread, splitFrom, List.reverse_reverse]

/-- Before a dot a printed part is a part of its own. -/
theorem splitList_text_dot (p : PrintedPart) (rest : List Char) :
    splitList (p.text.toList ++ '.' :: rest) = p.name.toList :: splitList rest := by
  rw [splitList, p.splitFrom_text (by simp)]
  simp [splitFrom, splitList]

/-- The name of several parts, as it is printed. -/
def printed (parts : List PrintedPart) : String :=
  String.ofList (Text.joined ['.'] (parts.map fun p => p.text.toList))

/-- A printed name has the parts that it was printed from. -/
theorem splitList_joined (p : PrintedPart) (parts : List PrintedPart) :
    splitList (Text.joined ['.'] ((p :: parts).map fun p => p.text.toList)) =
      (p :: parts).map fun p => p.name.toList := by
  induction parts generalizing p with
  | nil => exact p.splitList_text
  | cons q parts ih =>
    have htext : Text.joined ['.'] ((p :: q :: parts).map fun p => p.text.toList) =
        p.text.toList ++ '.' :: Text.joined ['.'] ((q :: parts).map fun p => p.text.toList) := by
      simp [Text.joined]
    rw [htext, p.splitList_text_dot, ih q]
    rfl

/-- Splitting a printed name of at least one part gives the parts back. -/
theorem split_printed {parts : List PrintedPart} (h : parts ≠ []) :
    split (printed parts) = parts.map name := by
  obtain ⟨p, parts, rfl⟩ := List.exists_cons_of_ne_nil h
  rw [split, printed, String.toList_ofList, p.splitList_joined parts, List.map_map]
  apply List.map_congr_left
  intro q _
  exact String.ofList_toList

/-- Three parts that only their quotes tell apart: one that has a dot and ends with a quote, an empty
one and a bare one. -/
def dottedParts : List PrintedPart :=
  [quoted "a.\"", quoted "", bare "c" (by simp)]

theorem split_printed_dottedParts :
    dottedParts ≠ [] ∧ printed dottedParts = "\"a.\"\"\".\"\".c" ∧
      split "\"a.\"\"\".\"\".c" = ["a.\"", "", "c"] := by
  have hne : dottedParts ≠ [] := List.cons_ne_nil _ _
  have htext : printed dottedParts = "\"a.\"\"\".\"\".c" := by decide
  refine ⟨hne, htext, ?_⟩
  rw [← htext]
  exact split_printed hne

end PrintedPart

end SchemaTransfer.Identifier
