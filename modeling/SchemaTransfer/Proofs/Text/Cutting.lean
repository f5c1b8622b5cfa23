import Mathlib.Data.List.Basic
import Mathlib.Data.List.TakeWhile
import SchemaTransfer.Text.Blank
import SchemaTransfer.Text.Find

/-!
# What trimming and cutting leave

Trimming takes a stretch of blanks off an end and the rest makes the text up with it; the end of a
trimmed text is trimmed. Cutting at one character separates what stands before its first place from
what stands after it.
-/

namespace SchemaTransfer.Text

/-- Blanks and the trimmed text make a text up. -/
theorem exists_eq_append_trimStart (cs : List Char) :
    ∃ blanks, (∀ c ∈ blanks, isBlank c = true) ∧ cs = blanks ++ trimStart cs :=
  ⟨cs.takeWhile isBlank, fun c hc => by simpa using List.all_eq_true.mp List.all_takeWhile c hc,
    List.takeWhile_append_dropWhile.symm⟩

/-- The trimmed text and blanks make a text up. -/
theorem exists_eq_trimEnd_append (cs : List Char) :
    ∃ blanks, (∀ c ∈ blanks, isBlank c = true) ∧ cs = trimEnd cs ++ blanks := by
  obtain ⟨blanks, hblanks, he⟩ := exists_eq_append_trimStart cs.reverse
  refine ⟨blanks.reverse, fun c hc => hblanks c (List.mem_reverse.mp hc), ?_⟩
  have hrev := congrArg List.reverse he
  rwa [List.reverse_reverse, List.reverse_append] at hrev

/-- The end of a text that ends with no blank ends with none either. -/
theorem trimEnd_of_append {front cs : List Char} (h : trimEnd (front ++ cs) = front ++ cs) :
    trimEnd cs = cs := by
  have hrev : trimStart (cs.reverse ++ front.reverse) = cs.reverse ++ front.reverse := by
    have := congrArg List.reverse h
    simpa [trimEnd, trimStart] using this
  have hstart : trimStart cs.reverse = cs.reverse := by
    refine trimStart_eq_self fun c rest hc => ?_
    rw [hc, List.cons_append] at hrev
    exact isBlank_head_trimStart hrev
  exact List.reverse_eq_iff.mpr hstart

/-- Trimming the start of a text that ends with no blank is all that trimming does to it. -/
theorem trimList_of_trimEnd {cs : List Char} (h : trimEnd cs = cs) :
    trimList cs = trimStart cs := by
  obtain ⟨blanks, _, he⟩ := exists_eq_append_trimStart cs
  rw [he] at h
  exact trimEnd_of_append h

/-- A text is trimmed at its end behind a character that is no blank. -/
theorem trimEnd_append_cons {c : Char} (hc : isBlank c = false) (front cs : List Char) :
    trimEnd (front ++ c :: cs) = front ++ c :: trimEnd cs := by
  simp only [trimEnd, List.reverse_append, List.reverse_cons, List.append_assoc,
    List.dropWhile_append, List.cons_append, List.nil_append, List.dropWhile_cons, hc]
  split
  · rename_i hblank
    simp [List.isEmpty_iff.mp hblank]
  · simp

/-- Behind a text that begins with no blank nothing is trimmed at the start. -/
theorem trimStart_append {cs : List Char} (h : trimStart cs = cs) (hne : cs ≠ [])
    (more : List Char) : trimStart (cs ++ more) = cs ++ more := by
  cases cs with
  | nil => exact absurd rfl hne
  | cons c cs =>
    have hc : isBlank c = false := isBlank_head_trimStart h
    simp [trimStart, hc]

/-- Before a text that ends with no blank nothing is trimmed at the end. -/
theorem trimEnd_append {cs : List Char} (h : trimEnd cs = cs) (hne : cs ≠ [])
    (front more : List Char) : trimEnd (front ++ (cs ++ more)) = front ++ (cs ++ trimEnd more) := by
  obtain ⟨start, c, rfl⟩ := (List.eq_nil_or_concat' cs).resolve_left hne
  have hc : isBlank c = false := by
    have hlast : trimEnd [c] = [c] := trimEnd_of_append h
    by_contra hblank
    simp [trimEnd, hblank] at hlast
  simpa using trimEnd_append_cons hc (front ++ start) more

theorem trimEnd_eq_nil_iff {cs : List Char} : trimEnd cs = [] ↔ ∀ c ∈ cs, isBlank c = true := by
  simp [trimEnd, List.dropWhile_eq_nil_iff]

theorem trimStart_trimList (cs : List Char) : trimStart (trimList cs) = trimList cs := by
  refine trimStart_eq_self fun c rest h => ?_
  obtain ⟨blanks, _, he⟩ := exists_eq_trimEnd_append (trimStart cs)
  rw [show trimEnd (trimStart cs) = c :: rest from h, List.cons_append] at he
  exact isBlank_head_trimStart he

/-- Blanks around the trimmed text make a text up. -/
theorem exists_eq_append_trimList_append (cs : List Char) :
    ∃ before after, (∀ c ∈ before, isBlank c = true) ∧ (∀ c ∈ after, isBlank c = true) ∧
      cs = before ++ (trimList cs ++ after) := by
  obtain ⟨before, hbefore, hstart⟩ := exists_eq_append_trimStart cs
  obtain ⟨after, hafter, hend⟩ := exists_eq_trimEnd_append (trimStart cs)
  exact ⟨before, after, hbefore, hafter, hstart.trans (congrArg (before ++ ·) hend)⟩

/-- A text that neither begins nor ends with a blank is kept by trimming, and only what follows it
is trimmed at the end. -/
theorem trimList_append {before cs : List Char} (hbefore : ∀ c ∈ before, isBlank c = true)
    (hstart : trimStart cs = cs) (hend : trimEnd cs = cs) (hne : cs ≠ []) (more : List Char) :
    trimList (before ++ (cs ++ more)) = cs ++ trimEnd more := by
  have hblanks : trimStart (before ++ (cs ++ more)) = trimStart (cs ++ more) :=
    List.dropWhile_append_of_pos hbefore
  rw [trimList, hblanks, trimStart_append hstart hne]
  exact trimEnd_append hend hne [] more

/-- A text that begins with no blank is trimmed at its end alone. -/
theorem trimList_cons {c : Char} (hc : isBlank c = false) (cs : List Char) :
    trimList (c :: cs) = trimEnd (c :: cs) := by
  rw [trimList, trimStart_eq_self]
  rintro d rest h
  rwa [← (List.cons.inj h).1]

/-- A cut at one character is made where it first stands. -/
theorem cutAt?_singleton (c : Char) (cs : List Char) :
    cutAt? [c] cs =
      match cs.dropWhile (· ≠ c) with
      | [] => none
      | _ :: rest => some (cs.takeWhile (· ≠ c), rest) := by
  induction cs with
  | nil => rfl
  | cons d cs ih =>
    by_cases h : c = d
    · subst h
      simp [cutAt?, afterBeginning?]
    · have hd : d ≠ c := Ne.symm h
      simp only [cutAt?, afterBeginning?, h, if_false, ih, List.dropWhile_cons, List.takeWhile_cons,
        hd, ne_eq, not_false_eq_true, decide_true, if_true]
      cases List.dropWhile (fun x => decide ¬x = c) cs <;> simp

/-- A cut at one character leaves the character in what stands after it only. -/
theorem cutAt?_singleton_eq_some_iff {c : Char} {cs front rest : List Char} :
    cutAt? [c] cs = some (front, rest) ↔ cs = front ++ c :: rest ∧ c ∉ front := by
  constructor
  · intro h
    have he := eq_of_cutAt? h
    rw [cutAt?_singleton] at h
    split at h
    · cases h
    · refine ⟨by simpa using he, fun hc => ?_⟩
      simp only [Option.some.injEq, Prod.mk.injEq] at h
      rw [← h.1] at hc
      simpa using List.all_eq_true.mp List.all_takeWhile c hc
  · rintro ⟨rfl, hc⟩
    have hbefore : ∀ d ∈ front, decide (d ≠ c) = true := fun d hd =>
      decide_eq_true fun he => hc (he ▸ hd)
    rw [cutAt?_singleton, List.dropWhile_append_of_pos hbefore,
      List.takeWhile_append_of_pos hbefore]
    simp

end SchemaTransfer.Text
