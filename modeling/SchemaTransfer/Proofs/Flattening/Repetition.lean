import SchemaTransfer.Proofs.Flattening.Columns
import SchemaTransfer.Proofs.Flattening.References

/-!
# Flattening again

Flattening leaves no array behind, however the types are spelled: a column counts as an array by the
end of its type name as it was printed, and what is taken off that name are all marks and blanks at
its end. Main statement: a second flattening, with whatever findings, finds nothing to do.
-/

namespace SchemaTransfer

namespace Column

/-- A column that holds no arrays is not expanded. -/
theorem isExpanded_of_not_isArray {c : Column} (h : c.isArray = false) (found : Option Int64) :
    c.isExpanded found = false := by
  simp only [isExpanded, h, Bool.false_and]

end Column

namespace Table

variable {t : Table} {found : Cardinalities}

/-- No column of a flattened table holds arrays. -/
theorem isArray_of_mem_flattened {d : Column} (hd : d ∈ (t.flattened found).columns) :
    d.isArray = false := by
  obtain ⟨c, _, e, he, n, rfl⟩ := exists_of_mem_flattened hd
  have hscalar : e.isArray = false := Column.isArray_of_mem_flattened he
  exact hscalar

/-- In a table without arrays no column is expanded. -/
theorem expandedColumns_of_not_hasArray (h : t.hasArray = false) :
    t.expandedColumns found = [] := by
  refine List.filter_eq_nil_iff.mpr fun c hc => ?_
  rw [Column.isExpanded_of_not_isArray (hasArray_eq_false_iff.mp h c hc)]
  exact Bool.false_ne_true

end Table

namespace Catalog

variable {k : Catalog} {found : Cardinalities}

/-- Where no table has arrays, no column has others in its place. -/
theorem replacement?_of_not_hasArray (h : ∀ t ∈ k.tables, t.hasArray = false) (place : ColumnRef) :
    k.replacement? found place = none := by
  rw [Option.eq_none_iff_forall_ne_some]
  intro names hnames
  obtain ⟨⟨t, ht, c, hc, _⟩, _⟩ := replacement?_eq_some_iff.mp hnames
  rw [Table.expandedColumns_of_not_hasArray (h t ht)] at hc
  cases hc

/-- A catalog without arrays stays as it is, and nothing is counted. -/
theorem flatten_of_not_hasArray (h : ∀ t ∈ k.tables, t.hasArray = false) :
    k.flatten found = k ∧ k.flattenSummary found = ⟨0, 0⟩ := by
  have htables : (k.tables.map fun t => t.flattened found) = k.tables := by
    refine (List.map_congr_left fun t ht => ?_).trans (List.map_id' _)
    exact Table.flattened_of_not_hasArray (h t ht) found
  have hkeys (x : Index) : x.columns.flatMap (k.flattenedKeys found x) = x.columns := by
    refine (List.flatMap_congr fun key _ => ?_).trans (List.flatMap_singleton' _)
    simp only [flattenedKeys, replacement?_of_not_hasArray h]
  have hnone : (k.tables.flatMap fun t =>
      (t.expandedColumns found).map fun c => c.flattened (found (t.ref c))) = [] := by
    refine List.flatMap_eq_nil_iff.mpr fun t ht => ?_
    rw [Table.expandedColumns_of_not_hasArray (h t ht), List.map_nil]
  constructor
  · simp only [flatten, htables, hkeys, List.map_id']
  · simp only [flattenSummary, hnone, List.length_nil, List.flatten_nil]

/-- After flattening no column holds arrays, and flattening again, with whatever findings, changes
nothing and counts nothing. -/
theorem flatten_flatten (k : Catalog) (found again : Cardinalities) :
    (∀ t ∈ (k.flatten found).tables, ∀ c ∈ t.columns, c.isArray = false) ∧
      (k.flatten found).flatten again = k.flatten found ∧
      (k.flatten found).flattenSummary again = ⟨0, 0⟩ := by
  have hscalar : ∀ t ∈ (k.flatten found).tables, ∀ c ∈ t.columns, c.isArray = false := by
    intro t' ht' c hc
    obtain ⟨t, _, rfl⟩ := List.mem_map.mp ht'
    exact Table.isArray_of_mem_flattened hc
  refine ⟨hscalar, flatten_of_not_hasArray fun t ht => ?_⟩
  exact Table.hasArray_eq_false_iff.mpr (hscalar t ht)

end Catalog

end SchemaTransfer
