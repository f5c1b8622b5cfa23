import SchemaTransfer.Emission.Keys

/-!
# The scripts of a catalog

A catalog without tables yields no script. Every other catalog yields one script for each purpose,
in the fixed order of the purposes, and the reports in the order in which the objects are met.
-/

namespace SchemaTransfer

/-- The scripts of a catalog with what was reported. -/
structure EmittedCatalog where
  scripts : List Script := []
  diagnostics : List Diagnostic := []
  deriving DecidableEq

namespace EmittedCatalog

/-- The script of a purpose, if there is one. -/
def script? (e : EmittedCatalog) (kind : ArtifactKind) : Option Script :=
  e.scripts.find? fun s => s.kind = kind

end EmittedCatalog

namespace Catalog

/-- The scripts of all purposes, in order. -/
def emittedScripts (options : EmitOptions) (k : Catalog) : List EmittedScript := [
  Emission.createSchemas options k,
  Emission.createTypes options k,
  Emission.dropTypes options k,
  Emission.createTables options k,
  Emission.dropTables options k,
  Emission.truncateTables options k,
  Emission.createIndexes options k,
  Emission.createForeignKeys options k]

/-- The scripts of the catalog. -/
def emit (options : EmitOptions) (k : Catalog) : EmittedCatalog :=
  if k.isEmpty then {}
  else
    let parts := k.emittedScripts options
    { scripts := parts.map (·.script)
      diagnostics := k.tables.filterMap Emission.tableReport? ++ parts.flatMap (·.reported) }

end Catalog

end SchemaTransfer
