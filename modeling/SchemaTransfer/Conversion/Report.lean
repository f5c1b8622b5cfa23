import SchemaTransfer.Conversion.Run
import SchemaTransfer.Document.JsonWriting

/-!
# Reports as text

A report is shown as a summary in lines or as one JSON record.
-/

namespace SchemaTransfer

open Document (Value)

/-- An artifact to write. -/
def Artifact.value (a : Artifact) : Value := .record [
  ("kind", .text a.kind.tag), ("path", .text a.path), ("statements", .integer a.statements),
  ("bytes", .integer a.bytes)]

/-- A diagnostic to write. -/
def Diagnostic.value (d : Diagnostic) : Value := .record [
  ("kind", .text d.kind.tag), ("object", .text d.object), ("message", .text d.message)]

/-- Counts to write. -/
def ObjectCounts.value (n : ObjectCounts) : Value := .record [
  ("schemas", .integer n.schemas), ("tables", .integer n.tables), ("columns", .integer n.columns),
  ("user_types", .integer n.userTypes), ("sequences", .integer n.sequences),
  ("indexes", .integer n.indexes), ("foreign_keys", .integer n.foreignKeys),
  ("arrays_flattened", .integer n.arraysFlattened),
  ("sequences_clamped", .integer n.sequencesClamped)]

namespace Report

/-- A report to write. -/
def value (r : Report) : Value := .record [
  ("outcome", .text r.outcome.tag), ("source", .text r.source), ("dry_run", .flag r.dryRun),
  ("output_dir", .text r.outputDir), ("counts", r.counts.value),
  ("artifacts", .list (r.artifacts.map Artifact.value)),
  ("diagnostics", .list (r.diagnostics.map Diagnostic.value))]

/-- The first line of a summary. -/
def headline (r : Report) : String :=
  match r.outcome with
  | .nothingToProcess => "Nothing to process: no tables found."
  | .generated => if r.dryRun then "Dry run completed!" else "Scripts generated!"

/-- What a summary says about an artifact. -/
def artifactLine (a : Artifact) : String :=
  "  " ++ a.path ++ " (" ++ toString a.statements ++ " statements)"

/-- What a summary says about the diagnostics. -/
def warningLines (r : Report) : List String :=
  if r.diagnostics.isEmpty then []
  else
    ("  Warnings: " ++ toString r.diagnostics.length) ::
      r.diagnostics.map fun d => "    " ++ d.line

/-- The lines of a summary. -/
def summary (r : Report) : List String :=
  [ "", r.headline,
    "  Source: " ++ r.source,
    "  Tables: " ++ toString r.counts.tables ++ " (" ++ toString r.counts.columns ++ " columns)",
    "  Sequences: " ++ toString r.counts.sequences ++ " (" ++
      toString r.counts.sequencesClamped ++ " clamped)" ] ++
  r.artifacts.map artifactLine ++ r.warningLines

end Report

end SchemaTransfer
