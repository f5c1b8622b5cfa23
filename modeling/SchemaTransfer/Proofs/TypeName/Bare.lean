import Mathlib.Data.List.TakeWhile
import SchemaTransfer.TypeName

/-!
# Bare type names

What stands around a printed type name counts for nothing: blanks at either end and array marks at
the end, in any order. What is left is bare already, it ends with no array mark, and nothing else
was taken off. Case is untouched, so taking off and lowering can change places.
-/

namespace SchemaTransfer

namespace Text

/-- The lower case of a letter stands 32 places after it. -/
theorem toNat_lowerLatin (c : Char) :
    (lowerLatin c).toNat = if 65 ≤ c.toNat ∧ c.toNat ≤ 90 then c.toNat + 32 else c.toNat := by
  have hletter : 'A' ≤ c ∧ c ≤ 'Z' ↔ 65 ≤ c.toNat ∧ c.toNat ≤ 90 :=
    and_congr UInt32.le_iff_toNat_le UInt32.le_iff_toNat_le
  unfold lowerLatin
  simp only [hletter]
  split
  · have hvalid : (c.toNat + 32).isValidChar := by
      unfold Nat.isValidChar
      omega
    rw [Char.ofNat, dif_pos hvalid]
    rfl
  · rfl

/-- The core library lowers the letters of the Latin alphabet in the same way. -/
theorem lowerLatin_eq_toLower : lowerLatin = Char.toLower := by
  funext c
  refine Char.ext (UInt32.toNat_inj.mp ?_)
  change (lowerLatin c).toNat = _
  have hletter : c.val ≥ 'A'.val ∧ c.val ≤ 'Z'.val ↔ 65 ≤ c.toNat ∧ c.toNat ≤ 90 :=
    and_congr UInt32.le_iff_toNat_le UInt32.le_iff_toNat_le
  rw [toNat_lowerLatin]
  unfold Char.toLower
  split
  · rename_i h
    rw [dif_pos (hletter.mpr h)]
    change _ = (c.val + ('a'.val - 'A'.val)).toNat
    rw [UInt32.toNat_add]
    exact (Nat.mod_eq_of_lt (show c.toNat + 32 < 2 ^ 32 by omega)).symm
  · rename_i h
    rw [dif_neg (mt hletter.mp h)]
    rfl

/-- Lowering makes only letters. -/
theorem lowerLatin_eq_iff {c d : Char} (hd : d.toNat < 97 ∨ 122 < d.toNat)
    (hd' : d.toNat < 65 ∨ 90 < d.toNat) : lowerLatin c = d ↔ c = d := by
  rw [← Char.toNat_inj, ← Char.toNat_inj, toNat_lowerLatin]
  split <;> omega

/-- No blank is a letter in either case. -/
@[simp] theorem isBlank_lowerLatin (c : Char) : isBlank (lowerLatin c) = isBlank c := by
  rw [isBlank, toNat_lowerLatin, isBlank]
  split
  · grind
  · rfl

end Text

namespace TypeName

open Text (isBlank)

/-! ## What is left -/

/-- What is left of a reversed name stood at its end. -/
theorem bareReversed_isSuffix (cs : List Char) : bareReversed cs <:+ cs := by
  fun_induction bareReversed cs with
  | case1 rest ih => exact ih.trans ((List.suffix_cons _ _).trans (List.suffix_cons _ _))
  | case2 c rest _ _ ih => exact ih.trans (List.suffix_cons c rest)
  | case3 => exact List.suffix_rfl
  | case4 => exact List.suffix_rfl

/-- A bare name begins with no blank. -/
theorem trimStart_bareList (cs : List Char) : Text.trimStart (bareList cs) = bareList cs := by
  have hbegins : bareList cs <+: Text.trimStart cs := by
    rw [bareList, ← List.reverse_suffix, List.reverse_reverse]
    exact bareReversed_isSuffix _
  refine Text.trimStart_eq_self fun c rest h => ?_
  obtain ⟨tail, htail⟩ := hbegins
  rw [h] at htail
  exact Text.isBlank_head_trimStart htail.symm

/-- A bare name is bare. -/
@[simp] theorem bare_bare (name : String) : bare (bare name) = bare name := by
  rw [bare, toList_bare, bare, bareList, trimStart_bareList, bareList, List.reverse_reverse,
    bareReversed_bareReversed]

/-- What begins with no reversed array mark loses its first character if this is blank, and is kept
otherwise. -/
theorem bareReversed_cons {c : Char} {cs : List Char}
    (hmark : ∀ rest, c = ']' → cs = '[' :: rest → False) :
    bareReversed (c :: cs) = if isBlank c then bareReversed cs else c :: cs := by
  -- the equations that the definition comes with are slow to derive
  conv => lhs; unfold bareReversed
  split
  · rename_i rest h
    obtain ⟨rfl, rfl⟩ := List.cons.inj h
    exact (hmark rest rfl rfl).elim
  · rename_i h
    obtain ⟨rfl, rfl⟩ := List.cons.inj h
    rfl
  · rename_i h
    cases h

/-- A bare name in reverse does not begin with a reversed array mark. -/
theorem bareReversed_ne_mark (cs rest : List Char) :
    bareReversed cs ≠ ']' :: '[' :: rest := by
  fun_induction bareReversed cs with
  | case1 tail ih => exact ih
  | case2 c tail _ _ ih => exact ih
  | case3 c tail hmark _ =>
    intro h
    obtain ⟨hc, ht⟩ := List.cons.inj h
    exact hmark rest hc ht
  | case4 => exact (List.cons_ne_nil _ _).symm

/-- No array mark is left at the end of a bare name. -/
@[simp] theorem hasArrayMark_bare (name : String) : hasArrayMark (bare name) = false := by
  rw [hasArrayMark, Text.endsWith, Option.isSome_eq_false_iff, Option.isNone_iff_eq_none,
    Option.eq_none_iff_forall_not_mem]
  intro front hfront
  have h := Text.beforeEnding?_eq_some_iff.mp (Option.mem_def.mp hfront)
  rw [toList_bare, bareList] at h
  have hmark : bareReversed (Text.trimStart name.toList).reverse = ']' :: '[' :: front.reverse := by
    simpa using congrArg List.reverse h
  exact bareReversed_ne_mark _ _ hmark

/-- A bare name in reverse begins with no blank. -/
theorem trimStart_bareReversed (cs : List Char) :
    Text.trimStart (bareReversed cs) = bareReversed cs := by
  fun_induction bareReversed cs with
  | case1 rest ih => exact ih
  | case2 c rest _ _ ih => exact ih
  | case3 c rest _ hc => simp [Text.trimStart, hc]
  | case4 => rfl

/-- A bare name has no blanks at its ends. -/
@[simp] theorem trim_bare (name : String) : Text.trim (bare name) = bare name := by
  rw [Text.trim, toList_bare, Text.trimList, trimStart_bareList, Text.trimEnd, bareList,
    List.reverse_reverse, ← Text.trimStart, trimStart_bareReversed, bare, bareList]

/-- A name that begins with no blank and ends with neither a blank nor a bracket is bare. -/
theorem bareList_concat {cs : List Char} {c : Char}
    (hstart : Text.trimStart (cs ++ [c]) = cs ++ [c]) (hc : isBlank c = false) (hmark : c ≠ ']') :
    bareList (cs ++ [c]) = cs ++ [c] := by
  have hkept : bareReversed (c :: cs.reverse) = c :: cs.reverse := by
    rw [bareReversed_cons fun _ he _ => hmark he, if_neg (by simp [hc])]
  rw [bareList, hstart, List.reverse_concat, hkept, List.reverse_cons, List.reverse_reverse]

/-! ## What counts for nothing -/

variable {blanks more : List Char}

/-- Blanks at the end of a name count for nothing. -/
theorem bareReversed_append_of_blank (h : ∀ c ∈ blanks, isBlank c = true) (cs : List Char) :
    bareReversed (blanks ++ cs) = bareReversed cs := by
  induction blanks with
  | nil => rfl
  | cons c blanks ih =>
    rw [List.forall_mem_cons] at h
    have hc : c ≠ ']' := by
      rintro rfl
      exact absurd h.1 (by decide)
    rw [List.cons_append, bareReversed_cons fun _ he _ => hc he, if_pos h.1, ih h.2]

/-- Blanks at the start of a name count for nothing. -/
theorem bareList_append_of_blank (h : ∀ c ∈ blanks, isBlank c = true) (cs : List Char) :
    bareList (blanks ++ cs) = bareList cs := by
  rw [bareList, Text.trimStart, List.dropWhile_append_of_pos h, bareList, Text.trimStart]

/-- What counts for nothing at the end of every name, and is no name by itself, can follow a name.
The case of a name of blanks stands apart, as the trimming then goes on in what follows. -/
theorem bareList_append_of_absorbed
    (h : ∀ rest, bareReversed (more.reverse ++ rest) = bareReversed rest)
    (hmore : bareList more = []) (cs : List Char) : bareList (cs ++ more) = bareList cs := by
  cases hcs : Text.trimStart cs with
  | nil =>
    have hblank : ∀ c ∈ cs, isBlank c = true := List.dropWhile_eq_nil_iff.mp hcs
    rw [bareList_append_of_blank hblank, hmore, bareList, hcs]
    rfl
  | cons c rest =>
    have hstart : Text.trimStart (cs ++ more) = Text.trimStart cs ++ more := by
      rw [Text.trimStart] at hcs ⊢
      rw [List.dropWhile_append, Text.trimStart, hcs]
      rfl
    rw [bareList, hstart, List.reverse_append, h, bareList]

/-- Blanks can follow a name. -/
theorem bareList_append_blank (h : ∀ c ∈ blanks, isBlank c = true) (cs : List Char) :
    bareList (cs ++ blanks) = bareList cs := by
  refine bareList_append_of_absorbed (fun rest => ?_) ?_ cs
  · exact bareReversed_append_of_blank (fun c hc => h c (List.mem_reverse.mp hc)) rest
  · have hnil := bareList_append_of_blank h []
    rwa [List.append_nil] at hnil

/-- An array mark can follow a name. -/
theorem bareList_append_mark (cs : List Char) : bareList (cs ++ ['[', ']']) = bareList cs :=
  bareList_append_of_absorbed (fun _ => rfl) rfl cs

/-! ## Letters -/

theorem trimStart_map_lowerLatin (cs : List Char) :
    Text.trimStart (cs.map Text.lowerLatin) = (Text.trimStart cs).map Text.lowerLatin := by
  have hblank : isBlank ∘ Text.lowerLatin = isBlank := by
    funext c
    exact Text.isBlank_lowerLatin c
  rw [Text.trimStart, List.dropWhile_map, hblank, Text.trimStart]

theorem bareReversed_map_lowerLatin (cs : List Char) :
    bareReversed (cs.map Text.lowerLatin) = (bareReversed cs).map Text.lowerLatin := by
  -- lowering makes no mark where there was none
  have hnone {c : Char} {rest tail : List Char}
      (hmark : ∀ rest', c = ']' → rest = '[' :: rest' → False)
      (hc : Text.lowerLatin c = ']') (ht : rest.map Text.lowerLatin = '[' :: tail) : False := by
    obtain ⟨d, rest', rfl, hd, _⟩ := List.map_eq_cons_iff.mp ht
    rw [Text.lowerLatin_eq_iff (by decide) (by decide)] at hc hd
    exact hmark rest' hc (by rw [hd])
  fun_induction bareReversed cs with
  | case1 rest ih => exact ih
  | case2 c rest hmark hc ih =>
    rw [List.map_cons, bareReversed_cons fun _ => hnone hmark, Text.isBlank_lowerLatin, if_pos hc,
      ih]
  | case3 c rest hmark hc =>
    rw [List.map_cons, bareReversed_cons fun _ => hnone hmark, Text.isBlank_lowerLatin, if_neg hc]
  | case4 => rfl

theorem bareList_map_lowerLatin (cs : List Char) :
    bareList (cs.map Text.lowerLatin) = (bareList cs).map Text.lowerLatin := by
  rw [bareList, trimStart_map_lowerLatin, ← List.map_reverse, bareReversed_map_lowerLatin,
    ← List.map_reverse, bareList]

end TypeName

end SchemaTransfer
