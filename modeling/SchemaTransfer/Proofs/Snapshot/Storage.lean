import SchemaTransfer.Proofs.Conversion.Likeness
import SchemaTransfer.Proofs.Snapshot.Answers
import SchemaTransfer.Proofs.Snapshot.Order

/-!
# How rows are stored does not matter

A snapshot may hold its rows in any order, next to rows of excluded schemas and to findings that
nothing asks for. Main statement: two snapshots of one source that hold the same included rows, with
different keys, and say the same about the included columns are converted in the same way; and a
snapshot is converted as if it held nothing of the excluded schemas.
-/

namespace SchemaTransfer.Snapshot

variable {α κ : Type} {excluded : List String}

/-- The rows of included schemas, as they are stored. -/
def includedRows (excluded : List String) (schemaOf : α → String) (rows : List α) : List α :=
  rows.filter fun r => isIncluded excluded (schemaOf r)

/-- Two lists of rows hold the same included rows, in any order, and no two with the same key. -/
structure SameRows (excluded : List String) (schemaOf : α → String) (key : α → κ)
    (rows others : List α) : Prop where
  perm : (includedRows excluded schemaOf rows).Perm (includedRows excluded schemaOf others)
  nodup : ((includedRows excluded schemaOf rows).map key).Nodup

/-- Two snapshots of one source agree on everything that is included. -/
structure SameIncluded (excluded : List String) (s t : Snapshot) : Prop where
  source : s.source = t.source
  columns : SameRows excluded (·.schema) (fun r => (r.schema, r.table, r.ordinal))
    s.columns t.columns
  userTypes : SameRows excluded (·.schema) (fun r => (r.schema, r.name)) s.userTypes t.userTypes
  tableComments : SameRows excluded (·.schema) (fun r => (r.schema, r.table))
    s.tableComments t.tableComments
  sequences : SameRows excluded (·.schema) (fun r => (r.schema, r.name)) s.sequences t.sequences
  indexes : SameRows excluded (·.schema)
    (fun r => (r.schema, r.table, r.indexName, r.columnPosition)) s.indexes t.indexes
  foreignKeys : SameRows excluded (·.schema) (fun r => (r.schema, r.table, r.constraintName))
    s.foreignKeys t.foreignKeys
  /-- The first findings for an included column say the same. -/
  findings : ∀ r ∈ s.columns, isIncluded excluded r.schema = true →
    s.finding? r.ref = t.finding? r.ref

/-- The snapshot with nothing of the excluded schemas. -/
def withoutExcluded (excluded : List String) (s : Snapshot) : Snapshot where
  source := s.source
  columns := includedRows excluded (·.schema) s.columns
  userTypes := includedRows excluded (·.schema) s.userTypes
  tableComments := includedRows excluded (·.schema) s.tableComments
  sequences := includedRows excluded (·.schema) s.sequences
  indexes := includedRows excluded (·.schema) s.indexes
  foreignKeys := includedRows excluded (·.schema) s.foreignKeys
  cardinalities := includedRows excluded (·.schema) s.cardinalities

/-! ## Rows -/

theorem SameRows.selected_eq {schemaOf : α → String} {key : α → κ} {rows others : List α}
    (h : SameRows excluded schemaOf key rows others) (cmp : α → α → Ordering) [Std.TransCmp cmp]
    (hkey : ∀ a b, cmp a b = .eq → key a = key b) :
    selected excluded schemaOf cmp rows = selected excluded schemaOf cmp others :=
  ordered_eq_of_perm hkey h.perm h.nodup

/-- Snapshots that agree on what is included have the same rows to read. -/
theorem SameIncluded.rows_eq {s t : Snapshot} (h : SameIncluded excluded s t) :
    s.rows excluded = t.rows excluded := by
  rw [rows, rows, h.columns.selected_eq compareColumns,
    h.userTypes.selected_eq compareUserTypes,
    h.tableComments.selected_eq compareTableComments,
    h.sequences.selected_eq compareSequences,
    h.indexes.selected_eq compareIndexes,
    h.foreignKeys.selected_eq compareForeignKeys]
  all_goals
    intro a b hab
    simpa [compareColumns, compareUserTypes, compareTableComments, compareSequences,
      compareIndexes, compareForeignKeys, compareLex, compareOn, Ordering.then_eq_eq] using hab

/-- Leaving rows of excluded schemas out twice is leaving them out once. -/
theorem selected_includedRows (schemaOf : α → String) (cmp : α → α → Ordering) (rows : List α) :
    selected excluded schemaOf cmp (includedRows excluded schemaOf rows) =
      selected excluded schemaOf cmp rows := by
  simp only [selected, includedRows, List.filter_filter, Bool.and_self]

theorem rows_withoutExcluded (s : Snapshot) :
    (s.withoutExcluded excluded).rows excluded = s.rows excluded := by
  simp only [rows, withoutExcluded, selected_includedRows]

/-! ## Findings -/

/-- The schema of a row to read is included. -/
theorem isIncluded_of_mem_columns {s : Snapshot} {r : ColumnRow}
    (hr : r ∈ (s.rows excluded).columns) :
    r ∈ s.columns ∧ isIncluded excluded r.schema = true :=
  List.mem_filter.mp ((isStableOrder_ordered compareColumns _).perm.subset hr)

theorem finding?_withoutExcluded (s : Snapshot) {place : ColumnRef}
    (h : isIncluded excluded place.schema = true) :
    (s.withoutExcluded excluded).finding? place = s.finding? place := by
  simp only [finding?, withoutExcluded, includedRows, List.find?_filter]
  congr 2
  funext r
  by_cases hr : r.ref = place
  · have hschema : r.schema = place.schema := congrArg ColumnRef.schema hr
    simp [hr, hschema, h]
  · simp [hr]

/-! ## Runs -/

/-- Snapshots of one source with the same rows to read and the same findings for their columns are
converted in the same way. -/
private theorem runsAlike_of_rows_eq {s t : Snapshot} (hsource : s.source = t.source)
    (hrows : s.rows excluded = t.rows excluded)
    (hfindings : ∀ r ∈ (s.rows excluded).columns, s.finding? r.ref = t.finding? r.ref) :
    (s.reader excluded).RunsAlike (t.reader excluded) := by
  refine Source.runsAlike_of_gather (by simp only [reader, title, hsource]) fun limit => ?_
  rw [gather_reader_eq, gather_reader_eq, findings_congr fun r hr _ => hfindings r hr, hrows]

/-- How rows are stored does not matter, and rows of excluded schemas have no influence at all. -/
theorem runsAlike_reader (excluded : List String) (s : Snapshot) :
    (∀ t, SameIncluded excluded s t → (s.reader excluded).RunsAlike (t.reader excluded)) ∧
      ((s.withoutExcluded excluded).reader excluded).RunsAlike (s.reader excluded) := by
  constructor
  · intro t h
    refine runsAlike_of_rows_eq h.source h.rows_eq fun r hr => ?_
    obtain ⟨hmem, hincluded⟩ := isIncluded_of_mem_columns hr
    exact h.findings r hmem hincluded
  · refine runsAlike_of_rows_eq rfl (rows_withoutExcluded s) fun r hr => ?_
    rw [rows_withoutExcluded] at hr
    exact finding?_withoutExcluded s (isIncluded_of_mem_columns hr).2

/-- A column `id` of the table `t` of a schema. -/
def idRow (schema : String) : ColumnRow :=
  { schema, table := "t", column := "id", ordinal := 1, regtype := "integer", isNullable := false }

/-- An array column `tags` of the table `s.t`. -/
def tagsRow : ColumnRow :=
  { schema := "s", table := "t", column := "tags", ordinal := 2, regtype := "text[]"
    isNullable := true, arrayDims := 1 }

/-- A snapshot of a table with both columns. -/
def plainlyStored : Snapshot where
  source := "db"
  columns := [tagsRow, idRow "s"]
  cardinalities := [⟨"s", "t", "tags", 3⟩, ⟨"s", "t", "tags", 7⟩]

/-- The same, next to rows of schemas that are left out. -/
def mixedStored : Snapshot where
  source := "db"
  columns := [idRow "pg_temp", idRow "s", idRow "public", tagsRow]
  cardinalities := [⟨"public", "t", "id", 5⟩, ⟨"s", "t", "tags", 3⟩]

theorem runsAlike_reader_mixedStored :
    SameIncluded ["public"] plainlyStored mixedStored ∧
      (plainlyStored.reader ["public"]).RunsAlike (mixedStored.reader ["public"]) := by
  have h : SameIncluded ["public"] plainlyStored mixedStored :=
    { source := rfl
      columns := ⟨by decide, by decide⟩
      userTypes := ⟨.nil, .nil⟩
      tableComments := ⟨.nil, .nil⟩
      sequences := ⟨.nil, .nil⟩
      indexes := ⟨.nil, .nil⟩
      foreignKeys := ⟨.nil, .nil⟩
      findings := by decide }
  exact ⟨h, (runsAlike_reader ["public"] plainlyStored).1 mixedStored h⟩

end SchemaTransfer.Snapshot
