import SchemaTransfer.Catalog.Basic
import SchemaTransfer.Diagnostic
import SchemaTransfer.Script

/-!
# What is written for an object

Every object of a catalog yields statements, reports, or both. The parts of a script are put
together in order: each part gives at most one batch. A table with a name that cannot be written
is rejected, and with it everything that needs the table.
-/

namespace SchemaTransfer

/-- What becomes of the actions of a foreign key. -/
inductive ActionPolicy where
  /-- No action is written. -/
  | omit
  /-- Every key cascades. -/
  | cascade
  /-- The actions of the source are written. -/
  | source
  deriving DecidableEq

/-- The choices for writing scripts. -/
structure EmitOptions where
  /-- The database that every script uses. -/
  database : Option String := none
  actions : ActionPolicy := .omit
  deriving DecidableEq

/-- Statements of one batch with what was reported about them. -/
structure Emitted where
  batch : List Statement := []
  reported : List Diagnostic := []
  deriving DecidableEq

namespace Emitted

/-- The statements and reports of several parts in one. -/
def gather (parts : List Emitted) : Emitted :=
  ⟨parts.flatMap (·.batch), parts.flatMap (·.reported)⟩

/-- One statement and nothing to report. -/
def statement (s : Statement) : Emitted := { batch := [s] }

/-- Nothing is written for one reason. -/
def skipped (d : Diagnostic) : Emitted := { reported := [d] }

end Emitted

/-- A script with what was reported while it was made. -/
structure EmittedScript where
  script : Script
  reported : List Diagnostic
  deriving DecidableEq

namespace EmittedScript

/-- A script whose batches are those of the parts, in order. -/
def ofParts (kind : ArtifactKind) (options : EmitOptions) (parts : List Emitted) :
    EmittedScript :=
  ⟨.ofBatches kind options.database (parts.map (·.batch)), parts.flatMap (·.reported)⟩

end EmittedScript

namespace Emission

/-- What is said about an object with a name that cannot be written. -/
def invalidName (object : String) (fault : Identifier.Fault) : Diagnostic :=
  ⟨.invalidIdentifier, object, "Invalid identifier: " ++ fault.message⟩

/-- The report on the first name that cannot be written. -/
def nameReport? (object : String) (names : List String) : Option Diagnostic :=
  (Identifier.firstFault? names).map (invalidName object)

/-- The report on a table with a name that cannot be written. -/
def tableReport? (t : Table) : Option Diagnostic :=
  nameReport? t.fullName (t.schema :: t.name :: t.columnNames)

/-- Whether the catalog has a table of the schema and name that cannot be written. -/
def rejects (k : Catalog) (schema name : String) : Bool :=
  k.tables.any fun t => t.isNamed schema name && (tableReport? t).isSome

/-- The tables that can be written. -/
def keptTables (k : Catalog) : List Table := k.tables.filter fun t => !rejects k t.schema t.name

theorem mem_keptTables {k : Catalog} {t : Table} :
    t ∈ keptTables k ↔ t ∈ k.tables ∧ rejects k t.schema t.name = false := by
  simp [keptTables]

/-- The name of a table as statements use it. -/
def tableName (t : Table) : ObjectName := ⟨t.schema, t.name⟩

end Emission

end SchemaTransfer
