import SchemaTransfer.Statement

/-!
# Scripts

A script is a list of batches of statements for one purpose. When it is rendered, a database
header and a transaction are put around the batches, and a line `GO` ends each of them.
-/

namespace SchemaTransfer

/-- The purposes of the scripts of a run. -/
inductive ArtifactKind where
  | createSchemas
  | createTypes
  | dropTypes
  | createTables
  | dropTables
  | truncateTables
  | createIndexes
  | createForeignKeys
  deriving DecidableEq

namespace ArtifactKind

/-- All purposes, in the order in which the scripts are made. -/
def all : List ArtifactKind :=
  [createSchemas, createTypes, dropTypes, createTables, dropTables, truncateTables,
    createIndexes, createForeignKeys]

/-- The purpose as one word. -/
def tag : ArtifactKind → String
  | createSchemas => "create_schemas"
  | createTypes => "create_types"
  | dropTypes => "drop_types"
  | createTables => "create_tables"
  | dropTables => "drop_tables"
  | truncateTables => "truncate_tables"
  | createIndexes => "create_indexes"
  | createForeignKeys => "create_foreign_keys"

/-- The name of the script's file. -/
def fileName (kind : ArtifactKind) : String := kind.tag ++ ".sql"

end ArtifactKind

/-- A script. -/
structure Script where
  kind : ArtifactKind
  /-- The database to use, if one is named. -/
  database : Option String
  batches : List (List Statement) := []
  deriving DecidableEq

namespace Script

/-- Adds a batch at the end; an empty one is not added. -/
def pushBatch (s : Script) (batch : List Statement) : Script :=
  if batch.isEmpty then s else { s with batches := s.batches ++ [batch] }

/-- Adds a batch of one statement at the end. -/
def push (s : Script) (statement : Statement) : Script :=
  { s with batches := s.batches ++ [[statement]] }

/-- A script of the given batches, the empty ones left out. -/
def ofBatches (kind : ArtifactKind) (database : Option String) (batches : List (List Statement)) :
    Script :=
  ⟨kind, database, batches.filter fun batch => !batch.isEmpty⟩

/-- The statements of all batches. -/
def statements (s : Script) : List Statement := s.batches.flatten

/-- The number of statements in the batches. -/
def statementCount (s : Script) : Nat := s.statements.length

/-- The line that ends a batch. -/
def separator : String := "GO"

/-- The statements of a batch, one after the other, each on lines of its own. -/
def batchLines (batch : List Statement) : String :=
  batch.foldr (fun statement rest => statement.text ++ "\n" ++ rest) ""

/-- A batch with the line that ends it and a blank line. -/
def batchText (batch : List Statement) : String := batchLines batch ++ separator ++ "\n\n"

/-- The batches in front of the content. -/
def header (s : Script) : List (List Statement) :=
  (s.database.toList.map fun name => [.useDatabase name]) ++ [[.beginTransaction]]

/-- The text of a script. -/
def render (s : Script) : String :=
  ((s.header ++ s.batches).foldr (fun batch rest => batchText batch ++ rest)
    (Statement.commitTransaction.text ++ "\n" ++ separator ++ "\n"))

end Script

end SchemaTransfer
