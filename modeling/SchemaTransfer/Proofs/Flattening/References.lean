import Mathlib.Data.List.Nodup
import SchemaTransfer.Proofs.Conversion.Frame
import SchemaTransfer.Proofs.Flattening.Names

/-!
# References to flattened columns

Indexes and foreign keys name columns. A column that becomes several is gone under its own name,
unless an element of another column of its table is called so. Keys of indexes follow the columns
that replace them, so they always name columns of the flattened table. Foreign keys are left as
they are: their columns are still there exactly when none of them is lost at either end.
-/

namespace SchemaTransfer

namespace Column

/-- A column that becomes several is replaced by the columns of its elements. -/
theorem replacements_of_isExpanded {c : Column} {found : Option Int64}
    (h : c.isExpanded found = true) :
    (c.endings found).map c.nameWith = elementNames c.name (found.getD 0) := by
  simp only [endings, h, if_true, List.map_map, elementNames]
  rfl

/-- A column that stays one keeps its name. -/
theorem replacements_of_not_isExpanded {c : Column} {found : Option Int64}
    (h : c.isExpanded found = false) : (c.endings found).map c.nameWith = [c.name] := by
  simp [endings, h, nameWith]

end Column

namespace Table

variable {t : Table} {found : Cardinalities} {name : String}

theorem mem_expandedColumns {c : Column} :
    c ∈ t.expandedColumns found ↔ c ∈ t.columns ∧ c.isExpanded (found (t.ref c)) = true :=
  List.mem_filter

/-- A column stands at a place when its table and itself have the names of the place. -/
theorem ref_eq_iff {c : Column} {place : ColumnRef} :
    t.ref c = place ↔ t.isNamed place.schema place.table = true ∧ c.name = place.column := by
  rw [isNamed_iff, ref]
  constructor
  · rintro rfl
    exact ⟨⟨rfl, rfl⟩, rfl⟩
  · rintro ⟨⟨hs, hn⟩, hc⟩
    rw [hs, hn, hc]

/-- A flattened table has the columns that stay one and the elements of the others. -/
theorem mem_columnNames_flattened_iff :
    name ∈ (t.flattened found).columnNames ↔
      (∃ c ∈ t.columns, c.isExpanded (found (t.ref c)) = false ∧ c.name = name) ∨
        ∃ d ∈ t.expandedColumns found,
          name ∈ Column.elementNames d.name ((found (t.ref d)).getD 0) := by
  rw [columnNames_flattened, List.mem_flatMap]
  constructor
  · rintro ⟨c, hc, hname⟩
    cases he : c.isExpanded (found (t.ref c)) with
    | true =>
      rw [Column.replacements_of_isExpanded he] at hname
      exact Or.inr ⟨c, mem_expandedColumns.mpr ⟨hc, he⟩, hname⟩
    | false =>
      rw [Column.replacements_of_not_isExpanded he, List.mem_singleton] at hname
      exact Or.inl ⟨c, hc, he, hname.symm⟩
  · rintro (⟨c, hc, he, rfl⟩ | ⟨d, hd, hname⟩)
    · refine ⟨c, hc, ?_⟩
      rw [Column.replacements_of_not_isExpanded he]
      exact List.mem_singleton_self _
    · obtain ⟨hd, he⟩ := mem_expandedColumns.mp hd
      refine ⟨d, hd, ?_⟩
      rwa [Column.replacements_of_isExpanded he]

/-- Whether a column of the table becomes several and no element of any column gets its name. -/
def Loses (t : Table) (found : Cardinalities) (name : String) : Prop :=
  (∃ c ∈ t.expandedColumns found, c.name = name) ∧
    ∀ d ∈ t.expandedColumns found, name ∉ Column.elementNames d.name ((found (t.ref d)).getD 0)

instance (t : Table) (found : Cardinalities) (name : String) : Decidable (t.Loses found name) :=
  inferInstanceAs (Decidable (_ ∧ _))

/-- A column of a table is still there after flattening exactly when it is not lost. -/
theorem mem_columnNames_flattened_iff_not_loses (hn : t.columnNames.Nodup)
    (h : name ∈ t.columnNames) (found : Cardinalities) :
    name ∈ (t.flattened found).columnNames ↔ ¬ t.Loses found name := by
  rw [mem_columnNames_flattened_iff]
  constructor
  · rintro (⟨c, hc, he, rfl⟩ | ⟨d, hd, hname⟩) ⟨⟨e, hexp, hsame⟩, hnone⟩
    · -- Only one column has the name, and it cannot both stay one and become several.
      obtain ⟨hmem, hexpanded⟩ := mem_expandedColumns.mp hexp
      rw [List.inj_on_of_nodup_map hn hmem hc hsame, he] at hexpanded
      exact Bool.false_ne_true hexpanded
    · exact hnone d hd hname
  · intro hkept
    obtain ⟨c, hc, rfl⟩ := List.mem_map.mp h
    cases he : c.isExpanded (found (t.ref c)) with
    | false => exact Or.inl ⟨c, hc, he, rfl⟩
    | true =>
      refine Or.inr ?_
      by_contra hnone
      refine hkept ⟨⟨c, mem_expandedColumns.mpr ⟨hc, he⟩, rfl⟩, fun d hd hname => ?_⟩
      exact hnone ⟨d, hd, hname⟩

end Table

namespace Catalog

variable {k : Catalog} {found : Cardinalities} {place : ColumnRef}

/-- Whether a table of the catalog has a column at a place. -/
def HasColumn (k : Catalog) (place : ColumnRef) : Prop :=
  ∃ t ∈ k.tables, t.isNamed place.schema place.table = true ∧ place.column ∈ t.columnNames

/-- Whether flattening loses the column at a place. -/
def Loses (k : Catalog) (found : Cardinalities) (place : ColumnRef) : Prop :=
  ∃ t ∈ k.tables, t.isNamed place.schema place.table = true ∧ t.Loses found place.column

/-- Every column that an index or a foreign key names is a column of the table it means. -/
structure ReferencesResolve (k : Catalog) : Prop where
  /-- A key of an index names a column of its table. -/
  indexKey : ∀ x ∈ k.indexes, ∀ key ∈ x.columns, k.HasColumn ⟨x.schema, x.table, key.name⟩
  /-- A column of a foreign key is one of its own table. -/
  ownColumn : ∀ fk ∈ k.foreignKeys, ∀ name ∈ fk.columns,
    k.HasColumn ⟨fk.schema, fk.table, name⟩
  /-- A referenced column is one of the referenced table. -/
  targetColumn : ∀ fk ∈ k.foreignKeys, ∀ name ∈ fk.refColumns,
    k.HasColumn ⟨fk.refSchema, fk.refTable, name⟩

instance (k : Catalog) (place : ColumnRef) : Decidable (k.HasColumn place) :=
  inferInstanceAs (Decidable (∃ t ∈ k.tables, _))

instance (k : Catalog) (found : Cardinalities) (place : ColumnRef) :
    Decidable (k.Loses found place) :=
  inferInstanceAs (Decidable (∃ t ∈ k.tables, _))

instance (k : Catalog) : Decidable k.ReferencesResolve :=
  decidable_of_iff
    ((∀ x ∈ k.indexes, ∀ key ∈ x.columns, k.HasColumn ⟨x.schema, x.table, key.name⟩) ∧
      (∀ fk ∈ k.foreignKeys, ∀ name ∈ fk.columns, k.HasColumn ⟨fk.schema, fk.table, name⟩) ∧
        ∀ fk ∈ k.foreignKeys, ∀ name ∈ fk.refColumns,
          k.HasColumn ⟨fk.refSchema, fk.refTable, name⟩)
    ⟨fun ⟨hx, ho, ht⟩ => ⟨hx, ho, ht⟩, fun ⟨hx, ho, ht⟩ => ⟨hx, ho, ht⟩⟩

theorem hasColumn_flatten_iff :
    (k.flatten found).HasColumn place ↔ ∃ t ∈ k.tables,
      t.isNamed place.schema place.table = true ∧
        place.column ∈ (t.flattened found).columnNames := by
  have hid (t : Table) : (t.flattened found).isNamed place.schema place.table =
      t.isNamed place.schema place.table := by
    simp only [Table.isNamed, Table.schema_flattened, Table.name_flattened]
  simp only [HasColumn, flatten, List.mem_map, exists_exists_and_eq_and, hid]

/-! ## Index keys -/

/-- There are names in the place of a column exactly when a column there becomes several, and they
are those of its elements. -/
theorem replacement?_eq_some_iff {names : List String} :
    k.replacement? found place = some names ↔
      (∃ t ∈ k.tables, ∃ c ∈ t.expandedColumns found, t.ref c = place) ∧
        Column.elementNames place.column ((found place).getD 0) = names := by
  have hany : (k.tables.any fun t => t.isNamed place.schema place.table &&
      t.columns.any fun c => c.name == place.column && c.isExpanded (found place)) = true ↔
        ∃ t ∈ k.tables, ∃ c ∈ t.expandedColumns found, t.ref c = place := by
    simp only [List.any_eq_true, Bool.and_eq_true, beq_iff_eq]
    constructor
    · rintro ⟨t, ht, hid, c, hc, hname, he⟩
      have hplace := Table.ref_eq_iff.mpr ⟨hid, hname⟩
      exact ⟨t, ht, c, Table.mem_expandedColumns.mpr ⟨hc, hplace ▸ he⟩, hplace⟩
    · rintro ⟨t, ht, c, hc, rfl⟩
      obtain ⟨hc, he⟩ := Table.mem_expandedColumns.mp hc
      obtain ⟨hid, hname⟩ := Table.ref_eq_iff.mp (rfl : t.ref c = t.ref c)
      exact ⟨t, ht, hid, c, hc, hname, he⟩
  simp only [replacement?, ← hany, Option.ite_none_right_eq_some, Option.some.injEq]

/-- A key of a column that becomes several is replaced by keys of its elements, and a key of any
other column is kept with its column. -/
theorem hasColumn_of_mem_flattenedKeys {x : Index} {key new : IndexColumn}
    (h : k.HasColumn ⟨x.schema, x.table, key.name⟩) (hnew : new ∈ k.flattenedKeys found x key) :
    (k.flatten found).HasColumn ⟨x.schema, x.table, new.name⟩ := by
  rw [hasColumn_flatten_iff]
  unfold flattenedKeys at hnew
  split at hnew
  · rename_i names hr
    obtain ⟨⟨t, ht, c, hc, hplace⟩, rfl⟩ := replacement?_eq_some_iff.mp hr
    obtain ⟨name, hname, rfl⟩ := List.mem_map.mp hnew
    obtain ⟨hid, hkey⟩ := Table.ref_eq_iff.mp hplace
    refine ⟨t, ht, hid, Table.mem_columnNames_flattened_iff.mpr (Or.inr ⟨c, hc, ?_⟩)⟩
    rw [hplace, hkey]
    exact hname
  · rename_i hr
    cases List.mem_singleton.mp hnew
    obtain ⟨t, ht, hid, hmem⟩ := h
    obtain ⟨c, hc, hkey⟩ := List.mem_map.mp hmem
    refine ⟨t, ht, hid, Table.mem_columnNames_flattened_iff.mpr (Or.inl ⟨c, hc, ?_, hkey⟩)⟩
    by_contra he
    have hexp := Table.mem_expandedColumns.mpr ⟨hc, Bool.not_eq_false _ ▸ he⟩
    have hsome := replacement?_eq_some_iff.mpr
      ⟨⟨t, ht, c, hexp, Table.ref_eq_iff.mpr ⟨hid, hkey⟩⟩, rfl⟩
    rw [hr] at hsome
    cases hsome

/-- Every key of every index names a column of the flattened table. -/
theorem indexKeys_resolve_flatten
    (h : ∀ x ∈ k.indexes, ∀ key ∈ x.columns, k.HasColumn ⟨x.schema, x.table, key.name⟩)
    (found : Cardinalities) :
    ∀ x ∈ (k.flatten found).indexes, ∀ key ∈ x.columns,
      (k.flatten found).HasColumn ⟨x.schema, x.table, key.name⟩ := by
  intro y hy key hkey
  obtain ⟨x, hx, rfl⟩ := List.mem_map.mp hy
  obtain ⟨old, hold, hnew⟩ := List.mem_flatMap.mp hkey
  exact hasColumn_of_mem_flattenedKeys (h x hx old hold) hnew

/-! ## Columns of foreign keys -/

/-- A column of the catalog is still there after flattening exactly when it is not lost. -/
theorem hasColumn_flatten_iff_not_loses (hids : k.tableIds.Nodup)
    (hnames : ∀ t ∈ k.tables, t.columnNames.Nodup) (h : k.HasColumn place)
    (found : Cardinalities) :
    (k.flatten found).HasColumn place ↔ ¬ k.Loses found place := by
  obtain ⟨t, ht, hid, hmem⟩ := h
  have honly : ∀ u ∈ k.tables, u.isNamed place.schema place.table = true → u = t := by
    intro u hu hidu
    obtain ⟨hs, hn⟩ := (t.isNamed_iff _ _).mp hid
    obtain ⟨hsu, hnu⟩ := (u.isNamed_iff _ _).mp hidu
    refine List.inj_on_of_nodup_map hids hu ht ?_
    rw [Emission.tableName, Emission.tableName, hs, hn, hsu, hnu]
  have hkept := Table.mem_columnNames_flattened_iff_not_loses (hnames t ht) hmem found
  rw [hasColumn_flatten_iff]
  constructor
  · rintro ⟨u, hu, hidu, hname⟩ ⟨v, hv, hidv, hlost⟩
    rw [honly u hu hidu] at hname
    rw [honly v hv hidv] at hlost
    exact hkept.mp hname hlost
  · intro hnone
    exact ⟨t, ht, hid, hkept.mpr fun hlost => hnone ⟨t, ht, hid, hlost⟩⟩

/-- When every reference of a catalog resolves, the keys of its indexes still resolve after
flattening, and all references do exactly when flattening loses no column of a foreign key, neither
of its own nor of its referenced table. -/
theorem referencesResolve_flatten_iff (hids : k.tableIds.Nodup)
    (hnames : ∀ t ∈ k.tables, t.columnNames.Nodup) (h : k.ReferencesResolve)
    (found : Cardinalities) :
    (∀ x ∈ (k.flatten found).indexes, ∀ key ∈ x.columns,
        (k.flatten found).HasColumn ⟨x.schema, x.table, key.name⟩) ∧
      ((k.flatten found).ReferencesResolve ↔ ∀ fk ∈ k.foreignKeys,
        (∀ name ∈ fk.columns, ¬ k.Loses found ⟨fk.schema, fk.table, name⟩) ∧
          ∀ name ∈ fk.refColumns, ¬ k.Loses found ⟨fk.refSchema, fk.refTable, name⟩) := by
  have hkeys := indexKeys_resolve_flatten h.indexKey found
  have hkept {place : ColumnRef} (hc : k.HasColumn place) :=
    hasColumn_flatten_iff_not_loses hids hnames hc found
  refine ⟨hkeys, fun hall fk hfk => ⟨fun name hname => ?_, fun name hname => ?_⟩, fun hall => ?_⟩
  · exact (hkept (h.ownColumn fk hfk name hname)).mp (hall.ownColumn fk hfk name hname)
  · exact (hkept (h.targetColumn fk hfk name hname)).mp (hall.targetColumn fk hfk name hname)
  · exact
      { indexKey := hkeys
        ownColumn := fun fk hfk name hname =>
          (hkept (h.ownColumn fk hfk name hname)).mpr ((hall fk hfk).1 name hname)
        targetColumn := fun fk hfk name hname =>
          (hkept (h.targetColumn fk hfk name hname)).mpr ((hall fk hfk).2 name hname) }

/-- Rows of two tables, each with an array column and a number, an index on one of the arrays and
a foreign key between given columns. -/
def linkedRows (column refColumn : String) : CatalogRows where
  columns := [
    { schema := "s", table := "t", column := "tags", ordinal := 1, regtype := "text[]"
      isNullable := true, arrayDims := 1 },
    { schema := "s", table := "t", column := "owner", ordinal := 2, regtype := "integer"
      isNullable := true },
    { schema := "s", table := "u", column := "labels", ordinal := 1, regtype := "text[]"
      isNullable := true, arrayDims := 1 },
    { schema := "s", table := "u", column := "id", ordinal := 2, regtype := "integer"
      isNullable := false }]
  indexes := [
    { schema := "s", table := "t", indexName := "by_tags", isPrimary := false, isUnique := false
      column := some "tags", columnPosition := 1 }]
  foreignKeys := [
    { schema := "s", table := "t", constraintName := "link", columns := [column]
      refSchema := "s", refTable := "u", refColumns := [refColumn] }]

/-- Two elements at most were found in either array column. -/
def linkedFound : Cardinalities :=
  (Cardinalities.empty.record ⟨"s", "t", "tags"⟩ 2).record ⟨"s", "u", "labels"⟩ 2

/-- A foreign key between numbers keeps its columns while arrays beside them are taken apart. -/
theorem referencesResolve_flatten_linked :
    (build (linkedRows "owner" "id") "").catalog.ReferencesResolve ∧
      ((build (linkedRows "owner" "id") "").catalog.flatten linkedFound).ReferencesResolve := by
  have h : (build (linkedRows "owner" "id") "").catalog.ReferencesResolve := by decide
  exact ⟨h, (referencesResolve_flatten_iff (by decide) (by decide) h linkedFound).2.mpr
    (by decide)⟩

/-- A foreign key between arrays names columns that are gone at both ends. -/
theorem not_referencesResolve_flatten_linked :
    (build (linkedRows "tags" "labels") "").catalog.tableIds.Nodup ∧
      (∀ t ∈ (build (linkedRows "tags" "labels") "").catalog.tables, t.columnNames.Nodup) ∧
      (build (linkedRows "tags" "labels") "").catalog.ReferencesResolve ∧
      ¬ ((build (linkedRows "tags" "labels") "").catalog.flatten
        linkedFound).ReferencesResolve := by
  refine ⟨by decide, by decide, by decide, by decide⟩

end Catalog

end SchemaTransfer
