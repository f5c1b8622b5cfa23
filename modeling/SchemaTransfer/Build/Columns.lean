import SchemaTransfer.Catalog.Basic
import SchemaTransfer.Diagnostic
import SchemaTransfer.Rows

/-!
# Tables from a stream of column rows

Rows that follow each other and name the same table make one table. The table being filled stays
open until a row of another table arrives or the stream is flushed. A row that repeats a column
name of the open table is dropped and reported.
-/

namespace SchemaTransfer

/-- The column that a row describes. Blank defaults and empty comments count as none, and a type
with an array mark has at least one dimension. -/
def Column.ofRow (r : ColumnRow) : Column where
  name := r.column
  ordinal := r.ordinal
  sourceType := r.regtype
  formattedType := if r.formattedType = "" then r.regtype else r.formattedType
  isNullable := r.isNullable
  arrayDims := if r.arrayDims = 0 ∧ TypeName.hasArrayMark r.regtype = true then 1 else r.arrayDims
  maxCardinality := 0
  numericPrecision := r.numericPrecision
  numericScale := r.numericScale
  maxCharSize := r.maxCharSize
  defaultExpr := r.defaultExpr.filter fun d => Text.trimList d.toList ≠ []
  comment := r.comment.filter fun c => c ≠ ""

namespace Build

/-- The tables read so far. -/
structure TableStream where
  /-- The schemas met, once each. -/
  schemas : List String := []
  /-- The tables that are complete. -/
  closed : List Table := []
  /-- The table being filled. -/
  current : Option Table := none
  diagnostics : List Diagnostic := []
  deriving DecidableEq

namespace TableStream

/-- Closes the table being filled, if there is one. -/
def flush (s : TableStream) : TableStream :=
  { s with closed := s.closed ++ s.current.toList, current := none }

/-- What is said about a row that repeats a name. -/
def duplicate (r : ColumnRow) : Diagnostic where
  kind := .duplicateColumn
  object := r.ref.fullName
  message := "column row at ordinal " ++ toString r.ordinal.toInt ++
    " repeats an earlier name; dropped"

/-- Adds a row to the table being filled, which is the row's own. -/
def fill (s : TableStream) (t : Table) (r : ColumnRow) : TableStream :=
  if r.column ∈ t.columnNames then { s with diagnostics := s.diagnostics ++ [duplicate r] }
  else { s with current := some { t with columns := t.columns ++ [Column.ofRow r] } }

/-- The table being filled, if the row belongs to it. -/
def openFor? (s : TableStream) (r : ColumnRow) : Option Table :=
  s.current.filter fun t => t.isNamed r.schema r.table

/-- Accepts one row: a row of another table closes the one being filled. -/
def accept (s : TableStream) (r : ColumnRow) : TableStream :=
  match s.openFor? r with
  | some t => s.fill t r
  | none =>
    let s := s.flush
    { s with
      schemas := noteSchema s.schemas r.schema
      current := some ⟨r.schema, r.table, [Column.ofRow r], none⟩ }

/-- The tables of a whole stream. -/
def ofRows (rows : List ColumnRow) : TableStream := (rows.foldl accept {}).flush

end TableStream

end Build

end SchemaTransfer
