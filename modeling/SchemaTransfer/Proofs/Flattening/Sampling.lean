import SchemaTransfer.Build.Columns
import SchemaTransfer.Proofs.Flattening.Sizes

/-!
# What is sampled and what is used of it

A finding for a column is used twice: for the number of columns that replace an array, and for the
size of a binary column. Whether a column is sampled is read off its row, and whether a finding for
it is used off the column that is made of the row. Main statement: no column is sampled without use,
and none is used without being sampled except a binary column whose type is printed with capitals or
with blanks around it.
-/

namespace SchemaTransfer

namespace Column

/-- Whether what is found for a column makes a difference: to the columns that replace it, or to its
size. -/
def DependsOnFinding (c : Column) : Prop :=
  ∃ found found' : Option Int64,
    c.flattened found ≠ c.flattened found' ∨ c.sizedBinary found ≠ c.sizedBinary found'

variable {c : Column}

/-- Two elements make two columns of an array column, and unknown ones make one. -/
theorem dependsOnFinding_of_isArray (h : c.isArray = true) : c.DependsOnFinding := by
  refine ⟨none, some 2, Or.inl fun he => ?_⟩
  have hlength := congrArg List.length he
  have hmany : ¬ (2 : Int64) ≤ 1 := by decide
  have hfew : (0 : Int64) ≤ 1 := by decide
  simp only [flattened, h, if_true, Option.getD_none, Option.getD_some, hfew, hmany, if_false,
    List.length_singleton, List.length_map, List.length_range'] at hlength
  exact absurd hlength (by decide)

/-- One byte and two give different sizes to a binary column. -/
theorem dependsOnFinding_of_isBinary (h : c.isBinary = true) : c.DependsOnFinding := by
  have hsize (n : Int64) (hn : 0 < n) :
      (c.sizedBinary (some n)).maxCharSize = lengthOf32Bits? n := by
    simp [sizedBinary, sampledLength?, h, Option.filter, hn]
  refine ⟨some 1, some 2, Or.inr fun he => ?_⟩
  have hequal := congrArg Column.maxCharSize he
  rw [hsize 1 (by decide), hsize 2 (by decide)] at hequal
  exact absurd hequal (by decide)

/-- A finding makes a difference to arrays and to binary columns, and to nothing else. -/
theorem dependsOnFinding_iff : c.DependsOnFinding ↔ c.isArray = true ∨ c.isBinary = true := by
  constructor
  · rintro ⟨found, found', hdiffer⟩
    by_contra hneither
    rw [not_or, Bool.not_eq_true, Bool.not_eq_true] at hneither
    obtain ⟨ha, hb⟩ := hneither
    have hkept (f : Option Int64) : c.sizedBinary f = c := by
      simp [sizedBinary, sampledLength?, hb]
    rcases hdiffer with hcolumns | hsize
    · exact hcolumns (by rw [flattened_of_not_isArray ha, flattened_of_not_isArray ha])
    · exact hsize (by rw [hkept, hkept])
  · rintro (ha | hb)
    · exact dependsOnFinding_of_isArray ha
    · exact dependsOnFinding_of_isBinary hb

/-- The column of a row holds arrays when the row says so. -/
@[simp] theorem isArray_ofRow (r : ColumnRow) : (ofRow r).isArray = r.isArray := by
  simp only [isArray, ofRow, ColumnRow.isArray]
  split
  · rename_i h
    simp [h.2]
  · rfl

theorem isBinary_ofRow_iff (r : ColumnRow) :
    (ofRow r).isBinary = true ↔
      r.isArray = false ∧ Text.lowered (Text.trim r.regtype) = "bytea" := by
  simp only [isBinary, isArray_ofRow, Bool.and_eq_true, Bool.not_eq_true', beq_iff_eq]
  rfl

end Column

namespace ColumnRow

theorem needsSampling_iff (r : ColumnRow) :
    r.needsSampling = true ↔ r.isArray = true ∨ r.regtype = "bytea" := by
  by_cases ha : r.isArray = true <;> simp [needsSampling, isBinary, ha]

/-- What is sampled is used. -/
theorem dependsOnFinding_of_needsSampling {r : ColumnRow} (h : r.needsSampling = true) :
    (Column.ofRow r).DependsOnFinding := by
  rw [Column.dependsOnFinding_iff, Column.isArray_ofRow, Column.isBinary_ofRow_iff]
  by_cases ha : r.isArray = true
  · exact Or.inl ha
  · have htype : r.regtype = "bytea" := ((needsSampling_iff r).mp h).resolve_left ha
    refine Or.inr ⟨Bool.not_eq_true _ ▸ ha, ?_⟩
    rw [htype]
    decide

/-- A row and its column agree on whether there are arrays. A column is sampled only if a finding makes
a difference to it, which it does to arrays and binary columns, and it is sampled whenever a finding
does exactly if it is no binary column whose type is spelled with capitals or blanks. -/
theorem needsSampling_iff_dependsOnFinding_iff (r : ColumnRow) :
    (Column.ofRow r).isArray = r.isArray ∧
      ((Column.ofRow r).DependsOnFinding ↔
        (Column.ofRow r).isArray = true ∨ (Column.ofRow r).isBinary = true) ∧
      (r.needsSampling = true → (Column.ofRow r).DependsOnFinding) ∧
      ((r.needsSampling = true ↔ (Column.ofRow r).DependsOnFinding) ↔
        ((Column.ofRow r).isBinary = true → r.regtype = "bytea")) := by
  refine ⟨Column.isArray_ofRow r, Column.dependsOnFinding_iff, dependsOnFinding_of_needsSampling, ?_⟩
  constructor
  · intro hsame hbinary
    have hscalar := ((Column.isBinary_ofRow_iff r).mp hbinary).1
    have hsampled := hsame.mpr (Column.dependsOnFinding_of_isBinary hbinary)
    exact ((needsSampling_iff r).mp hsampled).resolve_left (by simp [hscalar])
  · intro hplain
    refine ⟨dependsOnFinding_of_needsSampling, fun hdepends => (needsSampling_iff r).mpr ?_⟩
    rcases Column.dependsOnFinding_iff.mp hdepends with ha | hb
    · exact Or.inl (by rwa [Column.isArray_ofRow] at ha)
    · exact Or.inr (hplain hb)

/-- A row of a binary column whose type is printed in capitals. -/
def capitalRow : ColumnRow where
  schema := "s"
  table := "t"
  column := "digest"
  ordinal := 1
  regtype := "BYTEA"
  isNullable := true

/-- The column of the row takes its size from what is found for it, but the row is not sampled. -/
theorem not_needsSampling_iff_dependsOnFinding_capital :
    capitalRow.needsSampling = false ∧ (Column.ofRow capitalRow).isArray = false ∧
      (Column.ofRow capitalRow).isBinary = true ∧
      (Column.ofRow capitalRow).maxCharSize = none ∧
      ((Column.ofRow capitalRow).sizedBinary (some 32)).maxCharSize = some 32 ∧
      ¬ (capitalRow.needsSampling = true ↔ (Column.ofRow capitalRow).DependsOnFinding) := by
  have hsampled : capitalRow.needsSampling = false := by decide
  have hbinary : (Column.ofRow capitalRow).isBinary = true := by decide
  refine ⟨hsampled, by decide, hbinary, by decide, by decide, fun hsame => ?_⟩
  have hneeds := hsame.mpr (Column.dependsOnFinding_of_isBinary hbinary)
  rw [hsampled] at hneeds
  cases hneeds

end ColumnRow

end SchemaTransfer
