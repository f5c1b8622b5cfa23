import SchemaTransfer.Conversion.Plan
import SchemaTransfer.Files.Access

/-!
# Running a conversion

A run plans first and then writes every script to a file of its own, one after the other. The
first step that fails ends the run; nothing is written for a later script. A dry run says what
would be written and touches no file.
-/

namespace SchemaTransfer

/-- A script that was written, or would be. -/
structure Artifact where
  kind : ArtifactKind
  path : String
  statements : Nat
  /-- The length of the file in bytes. -/
  bytes : Nat
  deriving DecidableEq

namespace Script

/-- The path of a script's file in a directory. -/
def pathIn (s : Script) (directory : String) : String := pathInside directory s.kind.fileName

/-- What writing a script to a directory gives. -/
def artifact (s : Script) (directory : String) : Artifact where
  kind := s.kind
  path := s.pathIn directory
  statements := s.statementCount
  bytes := s.render.utf8ByteSize

variable {m : Type → Type} [Monad m]

/-- Writes a script to its file, and measures the file when it is complete. -/
def writeTo (files : FileAccess m) (directory : String) (s : Script) :
    ExceptT Failure m Artifact := do
  let path := s.pathIn directory
  files.writeText path s.render
  FileAccess.attempt (.output path) (files.flush path)
  let bytes ← FileAccess.attempt (.output path) (files.size path)
  return { s.artifact directory with bytes }

/-- Writes scripts one after the other. -/
def writeEach (files : FileAccess m) (directory : String) :
    List Script → ExceptT Failure m (List Artifact)
  | [] => return []
  | s :: scripts => do
    let artifact ← s.writeTo files directory
    let artifacts ← writeEach files directory scripts
    return artifact :: artifacts

/-- Writes scripts to a directory, which is made if need be; without scripts nothing is made. -/
def writeAll (files : FileAccess m) (directory : String) (scripts : List Script) :
    ExceptT Failure m (List Artifact) := do
  if scripts.isEmpty then return []
  else
    FileAccess.attempt (.output directory) (files.makeDirectories directory)
    writeEach files directory scripts

end Script

/-- What a run did. -/
structure Report where
  outcome : Outcome
  /-- What the source is called. -/
  source : String
  dryRun : Bool
  outputDir : String
  counts : ObjectCounts
  artifacts : List Artifact
  diagnostics : List Diagnostic
  deriving DecidableEq

/-- The report on a plan that was carried out. -/
def Plan.report (p : Plan) (settings : Settings) (dryRun : Bool) (artifacts : List Artifact) :
    Report where
  outcome := p.outcome
  source := p.source
  dryRun
  outputDir := settings.conversion.outputDir
  counts := p.counts
  artifacts
  diagnostics := p.diagnostics

/-- The artifacts that carrying out a plan would give. -/
def Plan.artifacts (p : Plan) (directory : String) : List Artifact :=
  p.scripts.map (·.artifact directory)

/-- Converts everything that a source holds. -/
def Source.convert {m : Type → Type} [Monad m] (s : Source) (files : FileAccess m)
    (settings : Settings) (dryRun : Bool) : ExceptT Failure m Report := do
  let plan ← ExceptT.mk (pure (s.plan settings))
  let directory := settings.conversion.outputDir
  let artifacts ←
    if dryRun then pure (plan.artifacts directory)
    else Script.writeAll files directory plan.scripts
  return plan.report settings dryRun artifacts

end SchemaTransfer
