import Mathlib.Data.List.Infix
import SchemaTransfer.Text.Find

/-!
# Where a pattern can stand

A character that is not in a pattern separates its places: the pattern stands on one side of it or
on the other. A text is cut at a pattern exactly when the pattern stands in it, and the cut of a text
with such a character is that of the first side that has one.
-/

namespace SchemaTransfer.Text

variable {p a b : List Char} {c : Char}

/-- A pattern at the start of a text ends before a character that is not in it. -/
theorem isPrefix_append_cons_iff (hc : c ∉ p) : p <+: a ++ c :: b ↔ p <+: a := by
  induction a generalizing p with
  | nil =>
    cases p with
    | nil => simp
    | cons d p => simpa [List.cons_prefix_cons, eq_comm] using fun h => absurd h (by simp_all)
  | cons d a ih =>
    cases p with
    | nil => simp
    | cons e p => simp [List.cons_prefix_cons, ih (List.not_mem_of_not_mem_cons hc)]

/-- A pattern stands on one side of a character that is not in it. -/
theorem isInfix_append_cons_iff (hp : p ≠ []) (hc : c ∉ p) :
    p <:+: a ++ c :: b ↔ p <:+: a ∨ p <:+: b := by
  induction a with
  | nil =>
    have hstart : ¬ p <+: c :: b := fun h => hp (by
      simpa using (isPrefix_append_cons_iff (a := []) hc).mp h)
    simp [List.infix_cons_iff, hstart, hp]
  | cons d a ih =>
    have hstart : p <+: d :: (a ++ c :: b) ↔ p <+: d :: a := by
      rw [← List.cons_append, isPrefix_append_cons_iff hc]
    rw [List.cons_append, List.infix_cons_iff, List.infix_cons_iff, hstart, ih, or_assoc]

/-- A stretch without the first character of a pattern holds no start of it. -/
theorem cons_isInfix_append_iff (hc : c ∉ a) : c :: p <:+: a ++ b ↔ c :: p <:+: b := by
  induction a with
  | nil => rfl
  | cons d a ih =>
    have hne : c ≠ d := List.ne_of_not_mem_cons hc
    rw [List.cons_append, List.infix_cons_iff, ih (List.not_mem_of_not_mem_cons hc)]
    simp [List.cons_prefix_cons, hne]

/-! ## Cuts at a pattern -/

theorem afterBeginning?_eq_none_iff : afterBeginning? p a = none ↔ ¬ p <+: a := by
  rw [Option.eq_none_iff_forall_not_mem, List.IsPrefix, not_exists]
  refine forall_congr' fun rest => not_congr ?_
  rw [Option.mem_def, afterBeginning?_eq_some_iff, eq_comm]

/-- A text is not cut exactly when the pattern does not stand in it. -/
theorem cutAt?_eq_none_iff : cutAt? p a = none ↔ ¬ p <:+: a := by
  induction a with
  | nil => simp [cutAt?, afterBeginning?_eq_none_iff]
  | cons d a ih =>
    rw [List.infix_cons_iff, not_or, ← ih, ← afterBeginning?_eq_none_iff]
    simp only [cutAt?]
    cases afterBeginning? p (d :: a) <;> simp

/-- What follows a pattern at the start of a text goes on after a character that is not in it. -/
theorem afterBeginning?_append_cons (hc : c ∉ p) :
    afterBeginning? p (a ++ c :: b) = (afterBeginning? p a).map (· ++ c :: b) := by
  induction a generalizing p with
  | nil =>
    cases p with
    | nil => rfl
    | cons d p => simp [afterBeginning?, (List.ne_of_not_mem_cons hc).symm]
  | cons d a ih =>
    cases p with
    | nil => rfl
    | cons e p =>
      simp only [List.cons_append, afterBeginning?, ih (List.not_mem_of_not_mem_cons hc)]
      split <;> rfl

/-- A text with a character that is not in the pattern is cut before it, if that can be, and else
after it. -/
theorem cutAt?_append_cons (hc : c ∉ p) :
    cutAt? p (a ++ c :: b) =
      match cutAt? p a with
      | some (front, rest) => some (front, rest ++ c :: b)
      | none => (cutAt? p b).map fun parts => (a ++ c :: parts.1, parts.2) := by
  induction a with
  | nil =>
    have hstart := afterBeginning?_append_cons (a := []) (b := b) hc
    rw [List.nil_append] at hstart
    simp only [List.nil_append, cutAt?, hstart]
    cases afterBeginning? p [] <;> rfl
  | cons d a ih =>
    have hstart := afterBeginning?_append_cons (a := d :: a) (b := b) hc
    rw [List.cons_append] at hstart ⊢
    simp only [cutAt?, hstart, ih]
    cases afterBeginning? p (d :: a) with
    | some rest => rfl
    | none =>
      cases cutAt? p a with
      | some parts => rfl
      | none => simp [Function.comp_def]

end SchemaTransfer.Text
