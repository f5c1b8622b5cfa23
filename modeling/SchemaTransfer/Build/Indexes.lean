import SchemaTransfer.Catalog.Objects
import SchemaTransfer.Diagnostic
import SchemaTransfer.Rows

/-!
# Indexes from a stream of index rows

Rows that follow each other and name the same index make one index, whose kind the first of them
decides. An index with a key that is no column is left out and reported; a second primary key of
a table becomes a unique constraint and is reported.
-/

namespace SchemaTransfer.Build

/-- The kind that a row asks for. -/
def indexKind (r : IndexRow) : IndexKind :=
  if r.isPrimary then .primaryKey else if r.isUnique then .unique else .plain

/-- An index being filled. -/
structure PendingIndex where
  index : Index
  hasExpression : Bool
  deriving DecidableEq

namespace PendingIndex

/-- Whether a row belongs to the index being filled. -/
def accepts (p : PendingIndex) (r : IndexRow) : Bool :=
  p.index.schema == r.schema && p.index.table == r.table && p.index.name == r.indexName

/-- Adds the key of a row. -/
def add (p : PendingIndex) (r : IndexRow) : PendingIndex :=
  match r.column with
  | some column =>
    let key : IndexColumn := ⟨column, .ofOption r.options⟩
    { p with index := { p.index with columns := p.index.columns ++ [key] } }
  | none => { p with hasExpression := true }

/-- Starts an index with its first row. -/
def start (r : IndexRow) : PendingIndex :=
  add ⟨⟨r.schema, r.table, r.indexName, indexKind r, []⟩, false⟩ r

end PendingIndex

/-- The indexes read so far. -/
structure IndexStream where
  /-- The indexes that are complete. -/
  indexes : List Index := []
  /-- The tables, by schema and name, that have their primary key. -/
  primaryKeys : List (String × String) := []
  /-- The index being filled. -/
  pending : Option PendingIndex := none
  diagnostics : List Diagnostic := []
  deriving DecidableEq

namespace IndexStream

/-- What is said about an index with a key that is no column. -/
def expressionIndex (x : Index) : Diagnostic :=
  ⟨.expressionIndex, x.fullName, "index has expression keys and was not converted"⟩

/-- What is said about a second primary key. -/
def extraPrimaryKey (x : Index) : Diagnostic :=
  ⟨.extraPrimaryKey, x.fullName,
    "table already has a primary key; converted as a unique constraint"⟩

/-- Completes an index. -/
def close (s : IndexStream) (p : PendingIndex) : IndexStream :=
  let x := p.index
  if p.hasExpression || x.columns.isEmpty then
    { s with diagnostics := s.diagnostics ++ [expressionIndex x] }
  else if x.kind = .primaryKey then
    if (x.schema, x.table) ∈ s.primaryKeys then
      { s with
        diagnostics := s.diagnostics ++ [extraPrimaryKey x]
        indexes := s.indexes ++ [{ x with kind := .unique }] }
    else
      { s with
        primaryKeys := (x.schema, x.table) :: s.primaryKeys
        indexes := s.indexes ++ [x] }
  else { s with indexes := s.indexes ++ [x] }

/-- Completes the index being filled, if there is one. -/
def finish (s : IndexStream) : IndexStream :=
  match s.pending with
  | some p => { s.close p with pending := none }
  | none => s

/-- Accepts one row: a row of another index completes the one being filled. -/
def accept (s : IndexStream) (r : IndexRow) : IndexStream :=
  match s.pending.filter (·.accepts r) with
  | some p => { s with pending := some (p.add r) }
  | none => { s.finish with pending := some (.start r) }

/-- The indexes of a whole stream. -/
def ofRows (rows : List IndexRow) : IndexStream := (rows.foldl accept {}).finish

end IndexStream

end SchemaTransfer.Build
