import Mathlib.Data.String.Basic
import SchemaTransfer.Proofs.Flattening.References
import SchemaTransfer.Proofs.Text.Numerals

/-!
# The numbers of flattened columns

An array column that becomes several is replaced by columns whose names end with the numbers of the
elements, written with zeros before them to the width of the greatest number, but to three digits at
most. Main statement: the names are those of the elements one by one, and as texts they have the
order of the elements, and one length, exactly when there are fewer than a thousand elements.
-/

namespace SchemaTransfer

/-- A numeral of a number, with zeros before it that fill it up to a number of digits. -/
structure IsNumeral (width n : Nat) (cs : List Char) : Prop where
  digits : ∀ c ∈ cs, c.isDigit = true
  value : Nat.ofDigitChars 10 cs 0 = n
  length : cs.length = max width (decimalDigits n).length

namespace IsNumeral

variable {width m n : Nat} {cs ds : List Char}

/-- A number below the power of ten has as many digits as are to be filled. -/
theorem length_eq (h : IsNumeral width n cs) (hwidth : 0 < width) (hn : n < 10 ^ width) :
    cs.length = width := by
  have hlength : (decimalDigits n).length ≤ width :=
    (Nat.length_toDigits_le_iff (by decide) hwidth).mpr hn
  rw [h.length]
  omega

/-- Numerals of one length are ordered as their numbers are. -/
theorem lt (hm : IsNumeral width m cs) (hn : IsNumeral width n ds) (h : m < n)
    (hlength : cs.length = ds.length) : cs < ds := by
  apply Text.lt_of_ofDigitChars_lt hm.digits hn.digits hlength
  rwa [hm.value, hn.value]

end IsNumeral

namespace Column

theorem isNumeral_padded (width n : Nat) : IsNumeral width n (padded width n) where
  digits := by
    intro c hc
    rcases List.mem_append.mp hc with hzero | hdigit
    · rw [List.eq_of_mem_replicate hzero]
      rfl
    · exact Nat.isDigit_of_mem_toDigits (by decide) (by decide) hdigit
  value := ofDigitChars_padded width n
  length := by
    rw [padded, List.length_append, List.length_replicate]
    omega

/-- Whether names are those of the elements of a column, in their order: the name of the column and
behind it the number of the element. -/
structure NumbersElements (name : String) (count : Int64) (names : List String) : Prop where
  length : names.length = count.toInt.toNat
  numbered : ∀ i (hi : i < names.length), ∃ cs,
    IsNumeral (min 3 (decimalDigits count.toInt.toNat).length) (i + 1) cs ∧
      names[i] = name ++ String.ofList cs

/-! ## The names of the elements -/

variable {name : String} {count : Int64}

theorem length_elementNames (name : String) (count : Int64) :
    (elementNames name count).length = count.toInt.toNat := by
  rw [elementNames, List.length_map, List.length_range']

theorem getElem_elementNames {i : Nat} (hi : i < (elementNames name count).length) :
    (elementNames name count)[i] = elementName name (suffixWidth count) (i + 1) := by
  simp only [elementNames, List.getElem_map, List.getElem_range', Nat.one_mul, Nat.add_comm 1]

/-- The name of an element is as long as the name of the column and its number. -/
theorem length_elementName (name : String) (width i : Nat) :
    (elementName name width i).toList.length =
      name.toList.length + max width (decimalDigits i).length := by
  rw [elementName, String.toList_ofList, List.length_append, (isNumeral_padded width i).length]

/-- Names of elements are ordered as their numbers are as texts. -/
theorem elementName_lt_of_padded_lt {width i j : Nat} (h : padded width i < padded width j) :
    elementName name width i < elementName name width j := by
  rw [String.lt_iff_toList_lt, elementName, elementName, String.toList_ofList,
    String.toList_ofList]
  exact List.append_left_lt h

/-- With as many digits as are to be filled that is the order of the elements. -/
theorem elementName_lt {width i j : Nat} (hwidth : 0 < width) (h : i < j) (hj : j < 10 ^ width) :
    elementName name width i < elementName name width j := by
  have hi := isNumeral_padded width i
  have hlength : (padded width i).length = (padded width j).length := by
    rw [hi.length_eq hwidth (h.trans hj), (isNumeral_padded width j).length_eq hwidth hj]
  apply elementName_lt_of_padded_lt
  exact hi.lt (isNumeral_padded width j) h hlength

/-- The numbers of several elements are as wide as the greatest of them, up to three digits. -/
theorem suffixWidth_of_one_lt (h : 1 < count) :
    suffixWidth count = min 3 (decimalDigits count.toInt.toNat).length := by
  have hmany : 1 < count.toInt := Int64.lt_iff_toInt_lt.mp h
  rw [suffixWidth, max_eq_left (by omega)]

theorem numbersElements_elementNames (h : 1 < count) :
    NumbersElements name count (elementNames name count) where
  length := length_elementNames name count
  numbered := by
    intro i hi
    refine ⟨padded (suffixWidth count) (i + 1), ?_, ?_⟩
    · rw [← suffixWidth_of_one_lt h]
      exact isNumeral_padded _ _
    · rw [getElem_elementNames, elementName, String.ofList_append, String.ofList_toList]

/-! ## Their order and their length -/

theorem suffixWidth_pos (count : Int64) : 0 < suffixWidth count :=
  Nat.lt_min.mpr ⟨by decide, Nat.length_toDigits_pos⟩

theorem count_le_iff : count ≤ 999 ↔ count.toInt.toNat < 1000 := by
  have hbound : count ≤ 999 ↔ count.toInt ≤ 999 := Int64.le_iff_toInt_le
  rw [hbound]
  omega

/-- Three digits are enough for fewer than a thousand elements. -/
theorem lt_pow_suffixWidth (h : 1 < count) (hcount : count ≤ 999) :
    count.toInt.toNat < 10 ^ suffixWidth count := by
  have hdigits : (decimalDigits count.toInt.toNat).length ≤ 3 :=
    (Nat.length_toDigits_le_iff (by decide) (by decide)).mpr (count_le_iff.mp hcount)
  rw [suffixWidth_of_one_lt h, Nat.min_eq_right hdigits]
  exact (Nat.length_toDigits_le_iff (by decide) Nat.length_toDigits_pos).mp (Nat.le_refl _)

/-- From a thousand elements on three digits are all that is filled. -/
theorem suffixWidth_of_thousand_le (h : 1 < count) (hcount : 1000 ≤ count.toInt.toNat) :
    suffixWidth count = 3 := by
  have hdigits : ¬ (decimalDigits count.toInt.toNat).length ≤ 3 := fun hle =>
    absurd ((Nat.length_toDigits_le_iff (by decide) (by decide)).mp hle) (Nat.not_lt.mpr hcount)
  rw [suffixWidth_of_one_lt h]
  omega

/-- The names have the order of the elements exactly when there are fewer than a thousand. -/
theorem pairwise_lt_elementNames_iff (h : 1 < count) :
    (elementNames name count).Pairwise (· < ·) ↔ count ≤ 999 := by
  rw [List.pairwise_iff_getElem]
  constructor
  · intro hpairwise
    by_contra hcount
    rw [count_le_iff, Nat.not_lt] at hcount
    have hlength := length_elementNames name count
    have hlt := hpairwise 998 999 (by omega) (by omega) (by decide)
    rw [getElem_elementNames, getElem_elementNames, suffixWidth_of_thousand_le h hcount] at hlt
    -- The number 1000 has a digit more than 999, and a smaller one in front.
    have hgt : padded 3 1000 < padded 3 999 := by decide
    exact lt_asymm hlt (elementName_lt_of_padded_lt hgt)
  · intro hcount i j hi hj hij
    rw [length_elementNames] at hj
    rw [getElem_elementNames, getElem_elementNames]
    have hbound := lt_pow_suffixWidth h hcount
    exact elementName_lt (suffixWidth_pos count) (by omega) (by omega)

/-- So they have one length. -/
theorem length_eq_of_mem_elementNames_iff (h : 1 < count) :
    (∃ n, ∀ x ∈ elementNames name count, x.toList.length = n) ↔ count ≤ 999 := by
  constructor
  · rintro ⟨n, hn⟩
    by_contra hcount
    rw [count_le_iff, Nat.not_lt] at hcount
    have hlength := length_elementNames name count
    have hfirst := hn _ (List.getElem_mem (show 0 < _ by omega))
    have hlast := hn _ (List.getElem_mem (show 999 < _ by omega))
    rw [getElem_elementNames, length_elementName,
      suffixWidth_of_thousand_le h hcount] at hfirst hlast
    have hone : (decimalDigits (0 + 1)).length = 1 := by decide
    have hthousand : (decimalDigits (999 + 1)).length = 4 := by decide
    omega
  · intro hcount
    refine ⟨name.toList.length + suffixWidth count, ?_⟩
    intro x hx
    obtain ⟨i, hi, rfl⟩ := List.mem_iff_getElem.mp hx
    rw [length_elementNames] at hi
    have hbound := lt_pow_suffixWidth h hcount
    rw [getElem_elementNames, length_elementName, ← (isNumeral_padded _ _).length,
      (isNumeral_padded _ _).length_eq (suffixWidth_pos count) (by omega)]

/-! ## The columns -/

/-- The columns that replace an array column of several elements have different names, which number
the elements. The names have the order of the elements, and one length, exactly when there are
fewer than a thousand elements. -/
theorem numbersElements_flattened {c : Column} (ha : c.isArray = true) (h : 1 < count) :
    let names := (c.flattened (some count)).map (·.name)
    NumbersElements c.name count names ∧ names.Nodup ∧
      (names.Pairwise (· < ·) ↔ count ≤ 999) ∧
      ((∃ n, ∀ x ∈ names, x.toList.length = n) ↔ count ≤ 999) := by
  intro names
  have hnodup : names.Nodup := by
    have hendings := (c.nodup_endings (some count)).map c.nameWith_injective
    rwa [← names_flattened] at hendings
  have hexpanded : c.isExpanded (some count) = true := by
    rw [isExpanded, ha, Option.getD_some, decide_eq_true h]
    rfl
  have hnames : names = elementNames c.name count :=
    (c.names_flattened _).trans (replacements_of_isExpanded hexpanded)
  rw [hnames] at hnodup ⊢
  exact ⟨numbersElements_elementNames h, hnodup, pairwise_lt_elementNames_iff h,
    length_eq_of_mem_elementNames_iff h⟩

/-- A column of arrays of texts. -/
def tagsColumn : Column where
  name := "tags"
  ordinal := 1
  sourceType := "text[]"
  formattedType := "text[]"
  isNullable := true
  arrayDims := 1
  maxCardinality := 0
  numericPrecision := none
  numericScale := none
  maxCharSize := none
  defaultExpr := none
  comment := none

/-- The names of 999 elements are in order; one element more, and `tags1000` comes before
`tags101`. -/
theorem numbersElements_flattened_tags :
    tagsColumn.isArray = true ∧ (1 : Int64) < 999 ∧ (1 : Int64) < 1000 ∧
      ((tagsColumn.flattened (some 999)).map (·.name)).Pairwise (· < ·) ∧
      ¬ ((tagsColumn.flattened (some 1000)).map (·.name)).Pairwise (· < ·) := by
  have ha : tagsColumn.isArray = true := by decide
  have hfew : (1 : Int64) < 999 := by decide
  have hmany : (1 : Int64) < 1000 := by decide
  refine ⟨ha, hfew, hmany, ?_, ?_⟩
  · exact (numbersElements_flattened ha hfew).2.2.1.mpr (by decide)
  · intro hpairwise
    exact absurd ((numbersElements_flattened ha hmany).2.2.1.mp hpairwise) (by decide)

end Column

end SchemaTransfer
