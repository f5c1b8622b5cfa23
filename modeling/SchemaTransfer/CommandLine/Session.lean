import SchemaTransfer.CommandLine.Invocation
import SchemaTransfer.Connection
import SchemaTransfer.Conversion.Report
import SchemaTransfer.Settings.File
import SchemaTransfer.Snapshot.File

/-!
# Carrying out a command

Arguments are looked at first, then the settings, then the snapshot. What is printed may come with
a failure: a health check prints its findings before it ends in one.
-/

namespace SchemaTransfer.CommandLine

/-- What a command printed, and the failure in which it ended. -/
structure Session where
  output : String := ""
  failure : Option Failure := none
  deriving DecidableEq

namespace Session

/-- The exit code of a session. -/
def exitCode (s : Session) : Nat :=
  match s.failure with
  | some failure => failure.exitCode
  | none => 0

/-- What is printed about the failure. -/
def errorText (s : Session) : String :=
  match s.failure with
  | some failure => failure.report ++ "\n"
  | none => ""

end Session

/-- The exit code for arguments that cannot be used. -/
def usageExitCode : Nat := 2

/-- Lines as text. -/
def linesText (lines : List String) : String :=
  lines.foldr (fun line rest => line ++ "\n" ++ rest) ""

/-- A result as text: one JSON value or lines. -/
def printed (asJson : Bool) (value : Document.Value) (lines : List String) : String :=
  if asJson then Document.Json.write value ++ "\n" else linesText lines

variable {m : Type → Type} [Monad m]

/-- The settings with another output directory, if one is given. -/
def redirected (settings : Settings) (outputDir : Option String) : Settings :=
  { settings with
    conversion :=
      { settings.conversion with outputDir := outputDir.getD settings.conversion.outputDir } }

/-- Writes the scripts for the catalog of a snapshot; without a snapshot the server would be
needed. -/
def generate (files : FileAccess m) (settings : Settings) (dryRun : Bool)
    (snapshot : Option String) : ExceptT Failure m Report := do
  match snapshot with
  | none => throw settings.source.connectionFailure
  | some path =>
    let snapshot ← Snapshot.load files path
    let source := snapshot.reader settings.conversion.excludedSchemaList
    source.convert files settings dryRun

/-- Carries out a command. -/
def perform (files : FileAccess m) (v : Invocation) : ExceptT Failure m Session := do
  let settings ← Settings.load files v.settings
  match v.command with
  | .generate outputDir dryRun snapshot =>
    let report ← generate files (redirected settings outputDir) dryRun snapshot
    return { output := printed v.outputJson report.value report.summary }
  | .snapshot _ => throw settings.source.connectionFailure
  | .healthCheck =>
    let check := settings.source.healthCheck
    return {
      output := printed v.outputJson check.value check.lines
      failure := check.failure? }

/-- Carries out a command; a failure ends the session. -/
def run (files : FileAccess m) (v : Invocation) : m Session := do
  match ← (perform files v).run with
  | .ok session => return session
  | .error failure => return { failure := some failure }

end SchemaTransfer.CommandLine
