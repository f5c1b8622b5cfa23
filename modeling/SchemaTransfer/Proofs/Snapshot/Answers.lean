import Mathlib.Data.List.Basic
import SchemaTransfer.Conversion.Gathering
import SchemaTransfer.Snapshot

/-!
# What a snapshot answers

A snapshot answers every question that is asked of it. What a run gathers from it, and what a
snapshot taken of it holds, are its included rows in order, and for each column that needs sampling
the first finding, if there is one.
-/

namespace SchemaTransfer.Snapshot

/-- The included rows, each kind in order. -/
def rows (s : Snapshot) (excluded : List String) : CatalogRows where
  columns := selected excluded (·.schema) compareColumns s.columns
  userTypes := selected excluded (·.schema) compareUserTypes s.userTypes
  tableComments := selected excluded (·.schema) compareTableComments s.tableComments
  sequences := selected excluded (·.schema) compareSequences s.sequences
  indexes := selected excluded (·.schema) compareIndexes s.indexes
  foreignKeys := selected excluded (·.schema) compareForeignKeys s.foreignKeys

/-- What is found for a column that needs sampling, as a row. -/
def findingRow? (s : Snapshot) (r : ColumnRow) : Option CardinalityRow :=
  if r.needsSampling then
    (s.finding? r.ref).map fun n => ⟨r.schema, r.table, r.column, n⟩
  else none

/-- What is found for those columns that need sampling, in order. -/
def findings (s : Snapshot) (rows : List ColumnRow) : List CardinalityRow :=
  rows.filterMap s.findingRow?

/-- Snapshots with the same findings for the columns at hand find out the same. -/
theorem findings_congr {s t : Snapshot} {rows : List ColumnRow}
    (h : ∀ r ∈ rows, r.needsSampling = true → s.finding? r.ref = t.finding? r.ref) :
    s.findings rows = t.findings rows := by
  refine List.filterMap_congr fun r hr => ?_
  unfold findingRow?
  split
  · rename_i hsampled
    rw [h r hr hsampled]
  · rfl

variable (s : Snapshot) (excluded : List String) (limit : Int64)

/-- A run finds out what the snapshot says, and has nothing to report. -/
theorem sampled_reader_eq (rows : List ColumnRow) :
    (s.reader excluded).sampled limit rows =
      .ok ((s.findings rows).map fun r => (r.ref, r.maxCardinality), []) := by
  induction rows with
  | nil => rfl
  | cons r rows ih =>
    rw [findings, List.filterMap_cons, ← findings, findingRow?]
    unfold Source.sampled
    split
    · rw [ih]
      dsimp only [reader]
      cases s.finding? r.ref <;> rfl
    · exact ih

/-- A snapshot that is taken holds the same findings. -/
theorem sample_reader_eq (rows : List ColumnRow) :
    sample (s.reader excluded) limit rows = .ok (s.findings rows) := by
  induction rows with
  | nil => rfl
  | cons r rows ih =>
    rw [findings, List.filterMap_cons, ← findings, findingRow?]
    unfold sample
    split
    · rw [ih]
      dsimp only [reader]
      cases s.finding? r.ref <;> rfl
    · exact ih

/-- Gathering from a snapshot never fails. -/
theorem gather_reader_eq :
    (s.reader excluded).gather limit = .ok
      { rows := s.rows excluded
        found := .ofList ((s.findings (s.rows excluded).columns).map
          fun r => (r.ref, r.maxCardinality))
        reported := [] } := by
  have hsampled := sampled_reader_eq s excluded limit (s.rows excluded).columns
  simp only [reader, rows] at hsampled
  simp only [Source.gather, reader, recovered_ok, bind, Except.bind, hsampled]
  rfl

/-- The snapshot that is taken of a snapshot. -/
def captured (s : Snapshot) (excluded : List String) : Snapshot where
  source := s.title
  columns := (s.rows excluded).columns
  userTypes := (s.rows excluded).userTypes
  tableComments := (s.rows excluded).tableComments
  sequences := (s.rows excluded).sequences
  indexes := (s.rows excluded).indexes
  foreignKeys := (s.rows excluded).foreignKeys
  cardinalities := s.findings (s.rows excluded).columns

/-- Taking a snapshot of a snapshot never fails. -/
theorem capture_reader_eq : capture (s.reader excluded) limit = .ok (s.captured excluded) := by
  have hsample := sample_reader_eq s excluded limit (s.rows excluded).columns
  simp only [reader, rows] at hsample
  simp only [capture, reader, bind, Except.bind, hsample]
  rfl

end SchemaTransfer.Snapshot
