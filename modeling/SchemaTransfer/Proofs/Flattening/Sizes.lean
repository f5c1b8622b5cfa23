import SchemaTransfer.Proofs.Flattening.Columns
import SchemaTransfer.Proofs.Flattening.References

/-!
# Sizes of flattened columns

One record of findings holds numbers of elements for arrays and lengths for binary values. Sizing
comes after flattening, when a column that held arrays of binary values holds single ones, so that
its number of elements can be read as a length. Main statement: columns that held no arrays are
sized by what was found for them, and the columns that replace arrays keep the size of the array
exactly when no array of binary values was found to have one element and nothing was found for a
column that flattening makes of one.
-/

namespace SchemaTransfer

namespace Column

/-- Whether the column holds arrays of binary values. -/
def isBinaryArray (c : Column) : Bool :=
  c.isArray && Text.lowered (Text.trim c.elementType) == "bytea"

/-- Whether a finding can be a length. -/
def isLength (found : Option Int64) : Bool := found.any fun n => 0 < n

variable {c d : Column} {found : Option Int64}

theorem isSome_sampledLength? :
    (c.sampledLength? found).isSome = true ↔ c.isBinary = true ∧ isLength found = true := by
  unfold sampledLength? isLength
  cases c.isBinary <;> cases found <;> simp [Option.filter]

/-- A column that is not measured keeps its size. -/
theorem sizedBinary_of_not_measured (h : (c.sampledLength? found).isSome = false) :
    c.sizedBinary found = c := by
  simp only [sizedBinary, Option.isNone_iff_eq_none.mp (Option.isSome_eq_false_iff.mp h)]

@[simp] theorem name_sizedBinary (c : Column) (found : Option Int64) :
    (c.sizedBinary found).name = c.name := by
  unfold sizedBinary
  split <;> rfl

/-- Whether a column is measured does not depend on its number. -/
theorem sampledLength?_ordinal (c : Column) (n : Int32) (found : Option Int64) :
    sampledLength? { c with ordinal := n } found = c.sampledLength? found := rfl

/-- The size that sizing gives does not depend on the number of the column. -/
theorem maxCharSize_sizedBinary_ordinal (c : Column) (n : Int32) (found : Option Int64) :
    (sizedBinary { c with ordinal := n } found).maxCharSize = (c.sizedBinary found).maxCharSize := by
  simp only [sizedBinary, sampledLength?_ordinal]
  split <;> rfl

/-- What replaces an array of binary values holds single binary values, and nothing else that
replaces an array does. -/
theorem isBinary_of_mem_flattened (hc : c.isArray = true) (hd : d ∈ c.flattened found) :
    d.isBinary = c.isBinaryArray := by
  simp only [isBinary, isBinaryArray, isArray_of_mem_flattened hd, hc,
    sourceType_of_mem_flattened hc hd, Bool.not_false, Bool.true_and]

end Column

namespace Table

/-- Whether flattening makes of a column one for which a finding counts as a length although the
column held arrays: a single element is taken for a single byte, or something was found under the
name of an element. -/
def TakesCountForLength (t : Table) (found : Cardinalities) (c : Column) : Prop :=
  c.isBinaryArray = true ∧
    (found (t.ref c) = some 1 ∨
      c.isExpanded (found (t.ref c)) = true ∧
        ∃ name ∈ Column.elementNames c.name ((found (t.ref c)).getD 0),
          Column.isLength (found ⟨t.schema, t.name, name⟩) = true)

instance (t : Table) (found : Cardinalities) (c : Column) :
    Decidable (t.TakesCountForLength found c) :=
  inferInstanceAs (Decidable (_ ∧ (_ ∨ _ ∧ _)))

variable {t : Table} {found : Cardinalities} {c d : Column}

/-- An array that stays one column has a finding that can be a length exactly when it is one. -/
private theorem isLength_iff_of_not_isExpanded (hc : c.isArray = true) {f : Option Int64}
    (he : c.isExpanded f = false) : Column.isLength f = true ↔ f = some 1 := by
  cases f with
  | none => simp [Column.isLength]
  | some n =>
    simp only [Column.isExpanded, hc, Bool.true_and, decide_eq_false_iff_not, Option.getD_some,
      Int64.lt_iff_toInt_lt, Int.not_lt] at he
    simp only [Column.isLength, Option.any_some, decide_eq_true_eq, Option.some.injEq,
      Int64.lt_iff_toInt_lt, ← Int64.toInt_inj]
    simp only [Int64.toInt_one, Int64.toInt_zero] at he ⊢
    omega

/-- A column that replaces an array is measured exactly when a count is taken for a length. -/
theorem takesCountForLength_iff (hc : c.isArray = true) :
    t.TakesCountForLength found c ↔ ∃ d ∈ c.flattened (found (t.ref c)),
      (d.sampledLength? (found (t.ref d))).isSome = true := by
  have hnamed (P : String → Prop) : (∃ d ∈ c.flattened (found (t.ref c)), P d.name) ↔
      ∃ name ∈ (c.endings (found (t.ref c))).map c.nameWith, P name := by
    rw [← Column.names_flattened]
    simp only [List.mem_map, exists_exists_and_eq_and]
  have hmeasured : (∃ d ∈ c.flattened (found (t.ref c)),
      (d.sampledLength? (found (t.ref d))).isSome = true) ↔ c.isBinaryArray = true ∧
        ∃ d ∈ c.flattened (found (t.ref c)),
          Column.isLength (found ⟨t.schema, t.name, d.name⟩) = true := by
    constructor
    · rintro ⟨d, hd, hs⟩
      rw [Column.isSome_sampledLength?, Column.isBinary_of_mem_flattened hc hd] at hs
      exact ⟨hs.1, d, hd, hs.2⟩
    · rintro ⟨hb, d, hd, hl⟩
      refine ⟨d, hd, ?_⟩
      rw [Column.isSome_sampledLength?, Column.isBinary_of_mem_flattened hc hd]
      exact ⟨hb, hl⟩
  rw [hmeasured, hnamed fun name => Column.isLength (found ⟨t.schema, t.name, name⟩) = true]
  refine and_congr_right fun _ => ?_
  cases he : c.isExpanded (found (t.ref c)) with
  | true =>
    have hmany : found (t.ref c) ≠ some 1 := by
      intro h1
      simp [Column.isExpanded, h1] at he
    simp only [Column.replacements_of_isExpanded he, hmany, true_and, false_or]
  | false =>
    simp only [Column.replacements_of_not_isExpanded he, List.mem_singleton, exists_eq_left,
      Bool.false_eq_true, false_and, or_false]
    exact (isLength_iff_of_not_isExpanded hc he).symm

end Table

namespace Catalog

variable {k : Catalog} {found : Cardinalities}

/-- The catalog after flattening and sizing. -/
def flattenedAndSized (k : Catalog) (found : Cardinalities) : Catalog :=
  (k.flatten found).sizeBinaryColumns found

/-- Whether a column of a table becomes, among others, a column of a flattened and sized catalog:
one of its table that has a name of the columns that replace it. -/
def Becomes (k : Catalog) (found : Cardinalities) (t : Table) (c d : Column) : Prop :=
  ∃ u ∈ (k.flattenedAndSized found).tables, u.isNamed t.schema t.name = true ∧
    d ∈ u.columns ∧ d.name ∈ (c.flattened (found (t.ref c))).map (·.name)

/-- The places of the columns that sizing gives a size. -/
def sizedPlaces (k : Catalog) (found : Cardinalities) : List ColumnRef :=
  k.tables.flatMap fun t =>
    (t.columns.filter fun c => (c.sampledLength? (found (t.ref c))).isSome).map t.ref

theorem mem_sizedPlaces {place : ColumnRef} :
    place ∈ k.sizedPlaces found ↔ ∃ t ∈ k.tables, ∃ c ∈ t.columns,
      (c.sampledLength? (found (t.ref c))).isSome = true ∧ t.ref c = place := by
  simp only [sizedPlaces, List.mem_flatMap, List.mem_map, List.mem_filter, and_assoc]

/-- Whether the columns that replace arrays have the size of the array, and only columns that held
no arrays are sized. -/
structure SizesScalarsOnly (k : Catalog) (found : Cardinalities) : Prop where
  kept : ∀ t ∈ k.tables, ∀ c ∈ t.columns, c.isArray = true → ∀ d, k.Becomes found t c d →
    d.maxCharSize = c.maxCharSize
  onlyBinary : ∀ place ∈ (k.flatten found).sizedPlaces found, place ∈ k.sizedPlaces found

section

variable (hids : k.tableIds.Nodup) (hnames : ∀ t ∈ k.tables, t.columnNames.Nodup)
  (hapart : ∀ t ∈ k.tables, t.NamesStayApart found)

include hids

/-- Tables of one schema and name are the same. -/
theorem eq_of_isNamed {t u : Table} (ht : t ∈ k.tables) (hu : u ∈ k.tables)
    (hs : u.schema = t.schema) (hn : u.name = t.name) : u = t := by
  refine List.inj_on_of_nodup_map hids hu ht ?_
  rw [Emission.tableName, Emission.tableName, hs, hn]

include hnames hapart

/-- What a column becomes is one of the columns that replace it, numbered and sized. -/
theorem exists_of_becomes {t : Table} (ht : t ∈ k.tables) {c d : Column} (hc : c ∈ t.columns)
    (h : k.Becomes found t c d) :
    ∃ e ∈ c.flattened (found (t.ref c)), ∃ n,
      d = Column.sizedBinary { e with ordinal := n } (found (t.ref e)) := by
  obtain ⟨u, hu, hid, hd, hname⟩ := h
  simp only [flattenedAndSized, sizeBinaryColumns, flatten, List.map_map, List.mem_map,
    Function.comp_apply] at hu
  obtain ⟨v, hv, rfl⟩ := hu
  obtain ⟨hs, hn⟩ := (Table.isNamed_iff _ _ _).mp hid
  simp only [Table.schema_flattened, Table.name_flattened] at hs hn
  obtain rfl : v = t := eq_of_isNamed hids ht hv hs hn
  obtain ⟨f, hf, rfl⟩ := List.mem_map.mp hd
  obtain ⟨c', hc', e, he, n, rfl⟩ := Table.exists_of_mem_flattened hf
  rw [Column.name_sizedBinary] at hname
  have hown : e.name ∈ (c'.flattened (found (v.ref c'))).map (·.name) := List.mem_map_of_mem he
  obtain rfl : c = c' := Table.eq_of_replacement_name (hnames v hv) (hapart v hv) hc hc' hname hown
  refine ⟨e, he, n, ?_⟩
  simp only [Table.ref, Table.schema_flattened, Table.name_flattened]

/-- A column that held no arrays becomes one with the size that was found for it, if it is binary
and something was found. -/
private theorem maxCharSize_of_scalar {t : Table} (ht : t ∈ k.tables) {c d : Column}
    (hc : c ∈ t.columns) (ha : c.isArray = false) (h : k.Becomes found t c d) :
    d.maxCharSize = (c.sizedBinary (found (t.ref c))).maxCharSize := by
  obtain ⟨e, he, n, rfl⟩ := exists_of_becomes hids hnames hapart ht hc h
  rw [Column.flattened_of_not_isArray ha, List.mem_singleton] at he
  rw [he, Column.maxCharSize_sizedBinary_ordinal]

/-- Where no count is taken for a length, arrays give their size to what replaces them. -/
private theorem maxCharSize_of_array {t : Table} (ht : t ∈ k.tables) {c d : Column}
    (hc : c ∈ t.columns) (ha : c.isArray = true) (hno : ¬ t.TakesCountForLength found c)
    (h : k.Becomes found t c d) : d.maxCharSize = c.maxCharSize := by
  obtain ⟨e, he, n, rfl⟩ := exists_of_becomes hids hnames hapart ht hc h
  rw [Table.takesCountForLength_iff ha] at hno
  have hnot : (e.sampledLength? (found (t.ref e))).isSome = false := by
    rw [← Bool.not_eq_true]
    exact fun hs => hno ⟨e, he, hs⟩
  rw [Column.maxCharSize_sizedBinary_ordinal, Column.sizedBinary_of_not_measured hnot,
    Column.maxCharSize_of_mem_flattened he]

/-- A column that replaces an array is not sized where only columns that held no arrays are. -/
private theorem not_takesCountForLength (h : k.SizesScalarsOnly found) {t : Table}
    (ht : t ∈ k.tables) {c : Column} (hc : c ∈ t.columns) : ¬ t.TakesCountForLength found c := by
  intro htakes
  have ha : c.isArray = true := by
    have hb := htakes.1
    simp only [Column.isBinaryArray, Bool.and_eq_true] at hb
    exact hb.1
  obtain ⟨d, hd, hs⟩ := (Table.takesCountForLength_iff ha).mp htakes
  obtain ⟨n, hd'⟩ := Table.exists_mem_flattened hc hd
  have hplace : t.ref d ∈ (k.flatten found).sizedPlaces found := by
    refine mem_sizedPlaces.mpr ⟨t.flattened found, List.mem_map_of_mem ht, _, hd', ?_, ?_⟩
    · rw [Column.sampledLength?_ordinal]
      simpa only [Table.ref, Table.schema_flattened, Table.name_flattened] using hs
    · simp only [Table.ref, Table.schema_flattened, Table.name_flattened]
  obtain ⟨u, hu, c', hc', hs', href⟩ := mem_sizedPlaces.mp (h.onlyBinary _ hplace)
  simp only [Table.ref, ColumnRef.mk.injEq] at href
  obtain ⟨hschema, hname, hcolumn⟩ := href
  obtain rfl : u = t := eq_of_isNamed hids ht hu hschema hname
  have hscalar : c'.isArray = false := by
    have hb := (Column.isSome_sampledLength?.mp hs').1
    simp only [Column.isBinary, Bool.and_eq_true, Bool.not_eq_true'] at hb
    exact hb.1
  -- The place is also that of a column that held no arrays, which flattening leaves in its place.
  have hown : d.name ∈ (c'.flattened (found (u.ref c'))).map (·.name) := by
    simp [Column.flattened_of_not_isArray hscalar, hcolumn]
  obtain rfl : c = c' := Table.eq_of_replacement_name (hnames u hu) (hapart u hu) hc hc'
    (List.mem_map_of_mem hd) hown
  rw [ha] at hscalar
  cases hscalar

end

/-- A column that is sized without a count being taken for a length held no arrays. -/
private theorem mem_sizedPlaces_of_flatten
    (hno : ∀ t ∈ k.tables, ∀ c ∈ t.columns, ¬ t.TakesCountForLength found c) {place : ColumnRef}
    (h : place ∈ (k.flatten found).sizedPlaces found) : place ∈ k.sizedPlaces found := by
  obtain ⟨u, hu, d, hd, hs, rfl⟩ := mem_sizedPlaces.mp h
  obtain ⟨t, ht, rfl⟩ := List.mem_map.mp hu
  obtain ⟨c, hc, e, he, n, rfl⟩ := Table.exists_of_mem_flattened hd
  simp only [Table.ref, Table.schema_flattened, Table.name_flattened] at hs ⊢
  cases ha : c.isArray with
  | true => exact absurd ((Table.takesCountForLength_iff ha).mpr ⟨e, he, hs⟩) (hno t ht c hc)
  | false =>
    rw [Column.flattened_of_not_isArray ha, List.mem_singleton] at he
    subst he
    exact mem_sizedPlaces.mpr ⟨t, ht, e, hc, hs, rfl⟩

/-- In a catalog whose names stay apart, a column that held no arrays is sized by what was found
for it. The columns that replace arrays keep the size of the array, and no others than binary
columns that held no arrays are sized, exactly when no count is taken for a length. -/
theorem sizesScalarsOnly_iff (hids : k.tableIds.Nodup)
    (hnames : ∀ t ∈ k.tables, t.columnNames.Nodup)
    (hapart : ∀ t ∈ k.tables, t.NamesStayApart found) :
    (∀ t ∈ k.tables, ∀ c ∈ t.columns, c.isArray = false → ∀ d, k.Becomes found t c d →
        d.maxCharSize = (c.sizedBinary (found (t.ref c))).maxCharSize) ∧
      (k.SizesScalarsOnly found ↔
        ∀ t ∈ k.tables, ∀ c ∈ t.columns, ¬ t.TakesCountForLength found c) := by
  refine ⟨fun t ht c hc ha d h => maxCharSize_of_scalar hids hnames hapart ht hc ha h, ?_, ?_⟩
  · exact fun h t ht c hc => not_takesCountForLength hids hnames hapart h ht hc
  · exact fun hno =>
      { kept := fun t ht c hc ha d h =>
          maxCharSize_of_array hids hnames hapart ht hc ha (hno t ht c hc) h
        onlyBinary := fun place h => mem_sizedPlaces_of_flatten hno h }

/-- Rows of a table with arrays of binary values and a column of single ones. -/
def binaryRows : CatalogRows where
  columns := [
    { schema := "s", table := "t", column := "chunks", ordinal := 1, regtype := "bytea[]"
      isNullable := true, arrayDims := 1 },
    { schema := "s", table := "t", column := "digest", ordinal := 2, regtype := "bytea"
      isNullable := true }]

/-- Arrays of a greatest number of elements, and values of 32 bytes. -/
def binaryFound (elements : Int64) : Cardinalities :=
  (Cardinalities.empty.record ⟨"s", "t", "chunks"⟩ elements).record ⟨"s", "t", "digest"⟩ 32

/-- The columns that replace arrays of up to four elements are not sized. -/
theorem sizesScalarsOnly_binary :
    let k := (build binaryRows "").catalog
    k.tableIds.Nodup ∧ (∀ t ∈ k.tables, t.columnNames.Nodup) ∧
      (∀ t ∈ k.tables, t.NamesStayApart (binaryFound 4)) ∧
      k.SizesScalarsOnly (binaryFound 4) := by
  intro k
  have hids : k.tableIds.Nodup := by decide
  have hnames : ∀ t ∈ k.tables, t.columnNames.Nodup := by decide
  have hapart : ∀ t ∈ k.tables, t.NamesStayApart (binaryFound 4) := fun t ht =>
    (Table.nodup_columnNames_flattened_iff (hnames t ht) _).mp (by revert t; decide)
  exact ⟨hids, hnames, hapart, (sizesScalarsOnly_iff hids hnames hapart).2.mpr (by decide)⟩

/-- The column that replaces arrays of one element is sized as if it had been measured. -/
theorem not_sizesScalarsOnly_binary :
    let k := (build binaryRows "").catalog
    k.tableIds.Nodup ∧ (∀ t ∈ k.tables, t.columnNames.Nodup) ∧
      (∀ t ∈ k.tables, t.NamesStayApart (binaryFound 1)) ∧
      k.tables.map (fun t => t.columns.map (·.maxCharSize)) = [[none, none]] ∧
      (k.flattenedAndSized (binaryFound 1)).tables.map (fun t => t.columns.map (·.maxCharSize)) =
        [[some 1, some 32]] ∧
      ¬ k.SizesScalarsOnly (binaryFound 1) := by
  intro k
  have hnames : ∀ t ∈ k.tables, t.columnNames.Nodup := by decide
  refine ⟨by decide, hnames, fun t ht => ?_, by decide, by decide, fun h => ?_⟩
  · exact (Table.nodup_columnNames_flattened_iff (hnames t ht) _).mp (by revert t; decide)
  · exact absurd h.onlyBinary (by decide)

end Catalog

end SchemaTransfer
