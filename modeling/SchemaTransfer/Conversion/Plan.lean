import SchemaTransfer.BinaryWidth
import SchemaTransfer.Build.Catalog
import SchemaTransfer.Conversion.Gathering
import SchemaTransfer.Emission.Catalog
import SchemaTransfer.Flattening
import SchemaTransfer.SequenceRange
import SchemaTransfer.Settings

/-!
# The plan of a run

Everything about a run that is decided before a file is written: the scripts, the counts and the
diagnostics. A catalog without tables is left as it was built and yields no script.
-/

namespace SchemaTransfer

/-- How a run ends when it does not fail. -/
inductive Outcome where
  | generated
  | nothingToProcess
  deriving DecidableEq

/-- An outcome as one word. -/
def Outcome.tag : Outcome → String
  | generated => "generated"
  | nothingToProcess => "nothing_to_process"

/-- The numbers of objects of a run. -/
structure ObjectCounts where
  schemas : Nat
  tables : Nat
  columns : Nat
  userTypes : Nat
  sequences : Nat
  indexes : Nat
  foreignKeys : Nat
  /-- The array columns that became several. -/
  arraysFlattened : Nat := 0
  /-- The sequences whose maximum was lowered. -/
  sequencesClamped : Nat := 0
  deriving DecidableEq

namespace Catalog

/-- The numbers of objects of a catalog. -/
def counts (k : Catalog) : ObjectCounts where
  schemas := k.schemas.length
  tables := k.tables.length
  columns := k.columnCount
  userTypes := k.userTypes.length
  sequences := k.sequences.length
  indexes := k.indexes.length
  foreignKeys := k.foreignKeys.length

/-- The catalog as the target can hold it: without arrays, with sized binary columns and with
bounded sequences. -/
def transformed (k : Catalog) (found : Cardinalities) : Catalog :=
  ((k.flatten found).sizeBinaryColumns found).resolveSequences

/-- The numbers of objects of the transformed catalog. -/
def transformedCounts (k : Catalog) (found : Cardinalities) : ObjectCounts :=
  { (k.transformed found).counts with
    arraysFlattened := (k.flattenSummary found).expanded
    sequencesClamped := ((k.flatten found).sizeBinaryColumns found).clampedCount }

end Catalog

/-- What a run is going to do. -/
structure Plan where
  outcome : Outcome
  /-- What the source is called. -/
  source : String
  counts : ObjectCounts
  scripts : List Script
  diagnostics : List Diagnostic
  deriving DecidableEq

namespace Plan

/-- The plan for gathered rows. -/
def ofGathered (settings : Settings) (source : String) (g : Gathered) : Plan :=
  let built := Catalog.build g.rows settings.conversion.foreignKeySuffix
  if built.catalog.isEmpty then
    { outcome := .nothingToProcess
      source
      counts := built.catalog.counts
      scripts := []
      diagnostics := g.reported ++ built.diagnostics }
  else
    let emitted := (built.catalog.transformed g.found).emit settings.emitOptions
    { outcome := .generated
      source
      counts := built.catalog.transformedCounts g.found
      scripts := emitted.scripts
      diagnostics := g.reported ++ built.diagnostics ++ emitted.diagnostics }

end Plan

/-- The plan for everything that a source holds. -/
def Source.plan (s : Source) (settings : Settings) : Except Failure Plan :=
  (s.gather settings.conversion.arraySampleLimit).map (Plan.ofGathered settings s.name)

end SchemaTransfer
