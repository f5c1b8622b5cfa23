import SchemaTransfer.Source
import SchemaTransfer.Text.Find

/-!
# Snapshots

A snapshot holds every row of a catalog with what sampling found. It can be taken from any source,
and is itself a source: the rows of excluded schemas are left out, the others are put in order
without changing the order of rows with equal keys, and of several findings for a column the first
counts.
-/

namespace SchemaTransfer

/-- The rows of a catalog. -/
structure Snapshot where
  /-- Where the rows come from. -/
  source : String := ""
  columns : List ColumnRow := []
  userTypes : List UserTypeRow := []
  tableComments : List TableCommentRow := []
  sequences : List SequenceRow := []
  indexes : List IndexRow := []
  foreignKeys : List ForeignKeyRow := []
  cardinalities : List CardinalityRow := []
  deriving DecidableEq

namespace Snapshot

/-! ## Order of rows -/

/-- Orders columns by schema, table and ordinal. -/
def compareColumns : ColumnRow → ColumnRow → Ordering :=
  compareLex (compareOn (·.schema)) (compareLex (compareOn (·.table)) (compareOn (·.ordinal)))

/-- Orders domains by schema and name. -/
def compareUserTypes : UserTypeRow → UserTypeRow → Ordering :=
  compareLex (compareOn (·.schema)) (compareOn (·.name))

/-- Orders comments by schema and table. -/
def compareTableComments : TableCommentRow → TableCommentRow → Ordering :=
  compareLex (compareOn (·.schema)) (compareOn (·.table))

/-- Orders sequences by schema and name. -/
def compareSequences : SequenceRow → SequenceRow → Ordering :=
  compareLex (compareOn (·.schema)) (compareOn (·.name))

/-- Orders index keys by schema, table, index and position. -/
def compareIndexes : IndexRow → IndexRow → Ordering :=
  compareLex (compareOn (·.schema)) (compareLex (compareOn (·.table))
    (compareLex (compareOn (·.indexName)) (compareOn (·.columnPosition))))

/-- Orders foreign keys by schema, table and constraint. -/
def compareForeignKeys : ForeignKeyRow → ForeignKeyRow → Ordering :=
  compareLex (compareOn (·.schema))
    (compareLex (compareOn (·.table)) (compareOn (·.constraintName)))

/-- Rows in order; rows with equal keys stay in the order in which they were. -/
def ordered {α : Type} (compare : α → α → Ordering) (rows : List α) : List α :=
  rows.mergeSort fun a b => (compare a b).isLE

/-! ## The snapshot as a source -/

/-- Whether rows of a schema are read: the source's own schemas and the excluded ones are not. -/
def isIncluded (excluded : List String) (schema : String) : Bool :=
  !Text.beginsWith ['p', 'g', '_'] schema && !excluded.contains schema

/-- The included rows, in order. -/
def selected {α : Type} (excluded : List String) (schemaOf : α → String)
    (compare : α → α → Ordering) (rows : List α) : List α :=
  ordered compare (rows.filter fun r => isIncluded excluded (schemaOf r))

/-- What the first finding for a column says. -/
def finding? (s : Snapshot) (place : ColumnRef) : Option Int64 :=
  (s.cardinalities.find? fun r => r.ref = place).map (·.maxCardinality)

/-- What a snapshot is called. -/
def title (s : Snapshot) : String :=
  if s.source = "" then "snapshot" else "snapshot of " ++ s.source

/-- The snapshot as a source without the excluded schemas. -/
def reader (s : Snapshot) (excluded : List String) : Source where
  name := s.title
  columns := .ok (selected excluded (·.schema) compareColumns s.columns)
  userTypes := .ok (selected excluded (·.schema) compareUserTypes s.userTypes)
  tableComments := .ok (selected excluded (·.schema) compareTableComments s.tableComments)
  sequences := .ok (selected excluded (·.schema) compareSequences s.sequences)
  indexes := .ok (selected excluded (·.schema) compareIndexes s.indexes)
  foreignKeys := .ok (selected excluded (·.schema) compareForeignKeys s.foreignKeys)
  cardinality place _ _ := .ok (s.finding? place)

/-! ## Taking a snapshot -/

/-- What sampling finds for the columns that need it. -/
def sample (source : Source) (limit : Int64) : List ColumnRow → Except Failure (List CardinalityRow)
  | [] => .ok []
  | r :: rows =>
    if r.needsSampling then
      match source.cardinality r.ref r.isBinary limit with
      | .error e => .error e
      | .ok none => sample source limit rows
      | .ok (some n) =>
        (sample source limit rows).map (⟨r.schema, r.table, r.column, n⟩ :: ·)
    else sample source limit rows

/-- Reads every row of a source; no failure is recovered from. -/
def capture (source : Source) (limit : Int64) : Except Failure Snapshot := do
  let columns ← source.columns
  let cardinalities ← sample source limit columns
  let userTypes ← source.userTypes
  let tableComments ← source.tableComments
  let sequences ← source.sequences
  let indexes ← source.indexes
  let foreignKeys ← source.foreignKeys
  return { source := source.name, columns, userTypes, tableComments, sequences, indexes,
           foreignKeys, cardinalities }

end Snapshot

end SchemaTransfer
