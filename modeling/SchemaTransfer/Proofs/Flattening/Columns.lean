import SchemaTransfer.Proofs.Flattening.Names
import SchemaTransfer.Proofs.TypeName.Bare

/-!
# The columns that replace an array column

What flattening puts in the place of an array column holds no arrays: it has the element type of
the column, whose name ends with no array mark, and the size that the array column had. Every
column of a flattened table comes, but for its number, from one column of the table.
-/

namespace SchemaTransfer

namespace Column

/-- What replaces an array column is made of it by taking the element type. -/
theorem exists_scalar_of_mem_flattened {c d : Column} {found : Option Int64}
    (hc : c.isArray = true) (hd : d ∈ c.flattened found) :
    ∃ name count default comment,
      d = { c.scalar name count with defaultExpr := default, comment := comment } := by
  simp only [flattened, hc, if_true] at hd
  split at hd
  · exact ⟨_, _, _, _, List.mem_singleton.mp hd⟩
  · obtain ⟨i, _, rfl⟩ := List.mem_map.mp hd
    simp only [element]
    split
    · exact ⟨_, _, _, _, rfl⟩
    · exact ⟨_, _, _, _, rfl⟩

/-- A column without its number. -/
def unnumbered (c : Column) : Column := { c with ordinal := 0 }

variable {c d : Column} {found : Option Int64}

/-- What replaces a column holds no arrays. -/
theorem isArray_of_mem_flattened (hd : d ∈ c.flattened found) : d.isArray = false := by
  cases hc : c.isArray with
  | true =>
    obtain ⟨name, count, default, comment, rfl⟩ := exists_scalar_of_mem_flattened hc hd
    simp [isArray, scalar, elementType]
  | false =>
    rw [flattened_of_not_isArray hc, List.mem_singleton] at hd
    rw [hd, hc]

/-- What replaces an array column has its element type. -/
theorem sourceType_of_mem_flattened (hc : c.isArray = true) (hd : d ∈ c.flattened found) :
    d.sourceType = c.elementType := by
  obtain ⟨name, count, default, comment, rfl⟩ := exists_scalar_of_mem_flattened hc hd
  rfl

/-- What replaces a column has its element type. -/
theorem elementType_of_mem_flattened (hd : d ∈ c.flattened found) :
    d.elementType = c.elementType := by
  cases hc : c.isArray with
  | true => rw [elementType, sourceType_of_mem_flattened hc hd, elementType, TypeName.bare_bare]
  | false =>
    rw [flattened_of_not_isArray hc, List.mem_singleton] at hd
    rw [hd]

/-- What replaces a column has its size. -/
theorem maxCharSize_of_mem_flattened (hd : d ∈ c.flattened found) :
    d.maxCharSize = c.maxCharSize := by
  cases hc : c.isArray with
  | true =>
    obtain ⟨name, count, default, comment, rfl⟩ := exists_scalar_of_mem_flattened hc hd
    rfl
  | false =>
    rw [flattened_of_not_isArray hc, List.mem_singleton] at hd
    rw [hd]

end Column

namespace Table

variable {t : Table} {found : Cardinalities} {d : Column}

/-- Numbering gives columns their numbers and leaves everything else alone. -/
theorem map_unnumbered_renumbered (columns : List Column) :
    (renumbered columns).map Column.unnumbered = columns.map Column.unnumbered := by
  apply List.ext_getElem
  · simp [renumbered]
  · intro i _ _
    simp [renumbered, Column.unnumbered]

/-- A column in a numbered list is one of the list with another number. -/
theorem mem_renumbered {columns : List Column} :
    d ∈ renumbered columns ↔
      ∃ i, ∃ h : i < columns.length, d = { columns[i] with ordinal := Int32.ofNat (i + 1) } := by
  simp only [renumbered, List.mem_mapIdx, @eq_comm _ _ d]

/-- A column of a flattened table is, but for its number, in the place of one of the table. -/
theorem exists_of_mem_flattened (hd : d ∈ (t.flattened found).columns) :
    ∃ c ∈ t.columns, ∃ e ∈ c.flattened (found (t.ref c)), ∃ n, d = { e with ordinal := n } := by
  cases ha : t.hasArray with
  | true =>
    rw [flattened_of_hasArray ha] at hd
    obtain ⟨i, hi, rfl⟩ := mem_renumbered.mp hd
    obtain ⟨c, hc, he⟩ := List.mem_flatMap.mp (List.getElem_mem hi)
    exact ⟨c, hc, _, he, _, rfl⟩
  | false =>
    rw [flattened_of_not_hasArray ha] at hd
    refine ⟨d, hd, d, ?_, d.ordinal, rfl⟩
    rw [Column.flattened_of_not_isArray (hasArray_eq_false_iff.mp ha d hd)]
    exact List.mem_singleton_self d

/-- What replaces a column of a table is in the flattened table, with some number. -/
theorem exists_mem_flattened {c : Column} (hc : c ∈ t.columns)
    (hd : d ∈ c.flattened (found (t.ref c))) :
    ∃ n, { d with ordinal := n } ∈ (t.flattened found).columns := by
  cases ha : t.hasArray with
  | true =>
    have hmem : d ∈ t.flattenedColumns found := List.mem_flatMap_of_mem hc hd
    obtain ⟨i, hi, rfl⟩ := List.getElem_of_mem hmem
    refine ⟨Int32.ofNat (i + 1), ?_⟩
    rw [flattened_of_hasArray ha]
    exact mem_renumbered.mpr ⟨i, hi, rfl⟩
  | false =>
    rw [Column.flattened_of_not_isArray (hasArray_eq_false_iff.mp ha c hc),
      List.mem_singleton] at hd
    rw [flattened_of_not_hasArray ha, hd]
    exact ⟨c.ordinal, hc⟩

/-- When no column shadows another, a name that replaces two columns replaces one. -/
theorem eq_of_replacement_name (hn : t.columnNames.Nodup) (hapart : t.NamesStayApart found)
    {c c' : Column} (hc : c ∈ t.columns) (hc' : c' ∈ t.columns) {name : String}
    (h : name ∈ (c.flattened (found (t.ref c))).map (·.name))
    (h' : name ∈ (c'.flattened (found (t.ref c'))).map (·.name)) : c = c' := by
  by_contra hne
  have hnames : c.name ≠ c'.name := fun he => hne (List.inj_on_of_nodup_map hn hc hc' he)
  rw [Column.names_flattened] at h h'
  exact (Column.disjoint_replacements_iff hnames _ _).mpr
    ⟨hapart c hc c' hc', hapart c' hc' c hc⟩ h h'

end Table

end SchemaTransfer
