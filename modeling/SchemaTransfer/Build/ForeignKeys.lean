import SchemaTransfer.Catalog.Basic
import SchemaTransfer.Diagnostic
import SchemaTransfer.Rows

/-!
# Foreign keys and their names

A foreign key is named after its constraint in the source, less a configured ending. Within a
table the second key of a name gets `1` appended, the third `2`, and so on. A row whose column
lists do not pair up is dropped and reported.
-/

namespace SchemaTransfer.Build

/-- The constraint name without the ending. The whole name stays if it does not end so or consists
of the ending alone. -/
def stem (name ending : String) : String :=
  if ending = "" then name
  else
    match Text.beforeEnding? ending.toList name.toList with
    | none => name
    | some [] => name
    | some front => String.ofList front

/-- The name that a constraint asks for in the target. -/
def baseName (name ending : String) : String := "FK_" ++ stem name ending

/-- Whether the local and the referenced columns of a row pair up. -/
def pairsUp (r : ForeignKeyRow) : Bool :=
  !r.columns.isEmpty && r.columns.length == r.refColumns.length

/-- What is said about a row whose columns do not pair up. -/
def unpaired (r : ForeignKeyRow) : Diagnostic where
  kind := .invalidForeignKey
  object := r.schema ++ "." ++ r.table ++ "." ++ r.constraintName
  message := toString r.columns.length ++ " local columns but " ++
    toString r.refColumns.length ++ " referenced columns"

/-- The foreign keys read so far. -/
structure ForeignKeyStream where
  /-- Schema, table and base name of every key kept. -/
  seen : List (String × String × String) := []
  foreignKeys : List ForeignKey := []
  diagnostics : List Diagnostic := []
  deriving DecidableEq

namespace ForeignKeyStream

/-- A base name with the number of earlier keys of the table that share it. -/
def numbered (base : String) (earlier : Nat) : String :=
  if earlier = 0 then base else base ++ toString earlier

/-- Accepts one row. -/
def accept (ending : String) (s : ForeignKeyStream) (r : ForeignKeyRow) : ForeignKeyStream :=
  if pairsUp r then
    let key := (r.schema, r.table, baseName r.constraintName ending)
    let fk : ForeignKey :=
      { name := numbered key.2.2 (s.seen.count key)
        sourceName := r.constraintName
        schema := r.schema
        table := r.table
        refSchema := r.refSchema
        refTable := r.refTable
        columns := r.columns
        refColumns := r.refColumns
        onDelete := .ofCode r.onDelete
        onUpdate := .ofCode r.onUpdate }
    { s with seen := key :: s.seen, foreignKeys := s.foreignKeys ++ [fk] }
  else { s with diagnostics := s.diagnostics ++ [unpaired r] }

/-- The foreign keys of a whole list of rows. -/
def ofRows (ending : String) (rows : List ForeignKeyRow) : ForeignKeyStream :=
  rows.foldl (accept ending) {}

end ForeignKeyStream

end SchemaTransfer.Build
