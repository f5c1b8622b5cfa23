import SchemaTransfer.Identifier.Qualified
import SchemaTransfer.Proofs.Text.Cutting
import SchemaTransfer.Proofs.Text.Patterns

/-!
# Texts with a mark written twice

Doubling a mark changes nothing but the mark: a text with doubled marks is found, cut, trimmed and
split where the text itself is.
-/

namespace SchemaTransfer.Identifier

variable {mark c : Char} {p cs : List Char}

/-- Doubling a mark keeps which patterns without it a text starts with. -/
theorem isPrefix_doubling_iff (hm : mark ∉ p) (cs : List Char) :
    p <+: doubling mark cs ↔ p <+: cs := by
  induction cs generalizing p with
  | nil => rfl
  | cons d cs ih =>
    cases p with
    | nil => simp
    | cons e p =>
      have hrest := ih (List.not_mem_of_not_mem_cons hm)
      have hne : e ≠ mark := Ne.symm (List.ne_of_not_mem_cons hm)
      by_cases hd : d = mark
      · subst hd
        simp [doubling, List.cons_prefix_cons, hne]
      · simp [doubling, hd, List.cons_prefix_cons, hrest]

/-- Doubling a mark neither makes nor breaks a pattern without it. -/
theorem isInfix_doubling_iff (hp : p ≠ []) (hm : mark ∉ p) (cs : List Char) :
    p <:+: doubling mark cs ↔ p <:+: cs := by
  induction cs with
  | nil => rfl
  | cons d cs ih =>
    by_cases hd : d = mark
    · subst hd
      have hskip : ∀ ds, p <:+: d :: ds ↔ p <:+: ds := fun ds => by
        simpa [hp] using Text.isInfix_append_cons_iff (a := []) (b := ds) hp hm
      simp only [doubling, if_true, hskip, ih]
    · have hstart := isPrefix_doubling_iff hm (d :: cs)
      simp only [doubling, hd, if_false] at hstart ⊢
      rw [List.infix_cons_iff, List.infix_cons_iff, hstart, ih]

/-- What stands before another character in a text with doubled marks is a text with doubled
marks. -/
theorem exists_eq_doubling_of_append {front rest : List Char} (hc : c ≠ mark)
    (h : doubling mark cs = front ++ c :: rest) : ∃ before, front = doubling mark before := by
  induction cs generalizing front with
  | nil => simp [doubling] at h
  | cons d cs ih =>
    by_cases hd : d = mark
    · subst hd
      simp only [doubling, if_true] at h
      -- The first mark and its double both stand before the other character.
      rcases front with _ | ⟨e, _ | ⟨f, front⟩⟩
      · exact absurd (List.cons.inj h).1.symm hc
      · simp only [List.cons_append, List.nil_append, List.cons.injEq] at h
        exact absurd h.2.1.symm hc
      · simp only [List.cons_append, List.cons.injEq] at h
        obtain ⟨rfl, rfl, hrest⟩ := h
        obtain ⟨before, rfl⟩ := ih hrest
        exact ⟨d :: before, by simp [doubling]⟩
    · simp only [doubling, hd, if_false] at h
      rcases front with _ | ⟨e, front⟩
      · exact ⟨[], rfl⟩
      · simp only [List.cons_append, List.cons.injEq] at h
        obtain ⟨rfl, hrest⟩ := h
        obtain ⟨before, rfl⟩ := ih hrest
        exact ⟨d :: before, by simp [doubling, hd]⟩

@[simp] theorem mem_doubling_iff : c ∈ doubling mark cs ↔ c ∈ cs := by
  induction cs with
  | nil => rfl
  | cons d cs ih =>
    by_cases hd : d = mark <;> simp [doubling, hd, ih]

theorem doubling_append (cs ds : List Char) :
    doubling mark (cs ++ ds) = doubling mark cs ++ doubling mark ds := by
  induction cs with
  | nil => rfl
  | cons d cs ih =>
    by_cases hd : d = mark <;> simp [doubling, hd, ih]

/-- Up to the first mark of another kind, a text with doubled marks is that of the text up to
there. -/
theorem takeWhile_doubling (hc : c ≠ mark) (cs : List Char) :
    (doubling mark cs).takeWhile (· ≠ c) = doubling mark (cs.takeWhile (· ≠ c)) := by
  induction cs with
  | nil => rfl
  | cons d cs ih =>
    by_cases hd : d = mark
    · subst hd
      simpa [doubling, Ne.symm hc] using ih
    · by_cases hdc : d = c
      · subst hdc
        simp [doubling, hd]
      · simpa [doubling, hd, hdc] using ih

theorem reverse_doubling (mark : Char) (cs : List Char) :
    (doubling mark cs).reverse = doubling mark cs.reverse := by
  induction cs with
  | nil => rfl
  | cons d cs ih =>
    by_cases hd : d = mark <;> simp [doubling, doubling_append, hd, ih]

/-- Blanks at the start are not doubled. -/
theorem trimStart_doubling (hm : Text.isBlank mark = false) (cs : List Char) :
    Text.trimStart (doubling mark cs) = doubling mark (Text.trimStart cs) := by
  induction cs with
  | nil => rfl
  | cons d cs ih =>
    by_cases hd : d = mark
    · subst hd
      simp [doubling, Text.trimStart, hm]
    · by_cases hblank : Text.isBlank d = true
      · simpa [doubling, hd, Text.trimStart, hblank] using ih
      · simp [doubling, hd, Text.trimStart, hblank]

/-- Nor are blanks at the end. -/
theorem trimEnd_doubling (hm : Text.isBlank mark = false) (cs : List Char) :
    Text.trimEnd (doubling mark cs) = doubling mark (Text.trimEnd cs) := by
  have hstart := trimStart_doubling hm cs.reverse
  simp only [Text.trimStart] at hstart
  simp only [Text.trimEnd, reverse_doubling, hstart]

/-- A text with its quotes doubled is one part, whether the quotes around it are closed or not. -/
theorem splitFrom_doubling_open (part text : List Char) :
    splitFrom true part (doubling '"' text) = [part.reverse ++ text] := by
  induction text generalizing part with
  | nil => simp [doubling, splitFrom]
  | cons c cs ih =>
    by_cases hc : c = '"'
    · subst hc
      simp [doubling, splitFrom, ih]
    · simp [doubling, hc, splitFrom, ih]

end SchemaTransfer.Identifier
