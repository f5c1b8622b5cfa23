import SchemaTransfer.Document.Fault

/-!
# Failures of a run

What ends a run, with its wording, the stage in which it arises and the exit code that it leads
to.
-/

namespace SchemaTransfer

/-- Why a file operation failed. -/
inductive FileFault where
  | notFound
  | alreadyExists
  | notADirectory
  | isADirectory
  | nameTooLong
  | nulInName
  /-- A fault in the words of the system. -/
  | other (text : String)
  deriving DecidableEq

/-- The wording of a file fault. -/
def FileFault.message : FileFault → String
  | notFound => "No such file or directory (os error 2)"
  | alreadyExists => "File exists (os error 17)"
  | notADirectory => "Not a directory (os error 20)"
  | isADirectory => "Is a directory (os error 21)"
  | nameTooLong => "File name too long (os error 36)"
  | nulInName => "file name contained an unexpected NUL byte"
  | other text => text

/-- What ends a run. -/
inductive Failure where
  | configuration (text : String)
  | connection (text : String)
  /-- A query for rows of one kind failed. -/
  | catalogQuery (entity text : String)
  | identifier (text : String)
  /-- A file could not be written. -/
  | output (path : String) (fault : FileFault)
  /-- A file could not be read. -/
  | file (fault : FileFault)
  /-- A document does not hold what it should. -/
  | document (format : Document.Format) (fault : Document.Fault)
  deriving DecidableEq

namespace Failure

/-- The name of the format as it begins a message. -/
def formatTitle : Document.Format → String
  | .json => "JSON error"
  | .yaml => "YAML error"

/-- The wording of a failure. -/
def message : Failure → String
  | configuration text => "Configuration error: " ++ text
  | connection text => "Connection to source catalog failed: " ++ text
  | catalogQuery entity text => "Catalog query for " ++ entity ++ " failed: " ++ text
  | identifier text => "Invalid identifier: " ++ text
  | output path fault => "Failed to write artifact " ++ path ++ ": " ++ fault.message
  | file fault => "IO error: " ++ fault.message
  | document format fault =>
    formatTitle format ++ ": " ++ (fault.message? format).getD "malformed text"

/-- The stage in which a failure arises. -/
def stage : Failure → String
  | configuration _ => "configuration"
  | document .yaml _ => "configuration"
  | connection _ => "connect"
  | catalogQuery _ _ => "catalog read"
  | identifier _ => "model build"
  | output _ _ => "artifact output"
  | file _ => "artifact output"
  | document .json _ => "serialization"

/-- The exit code that a failure leads to. -/
def exitCode : Failure → Nat
  | configuration _ => 2
  | document .yaml _ => 2
  | connection _ => 3
  | output _ _ => 4
  | file _ => 4
  | catalogQuery _ _ => 1
  | identifier _ => 1
  | document .json _ => 1

/-- The cause below a failure, if it has one. -/
def cause? : Failure → Option String
  | output _ fault => some fault.message
  | file fault => some fault.message
  | _ => none

/-- The failure with its stage and its cause. -/
def report (e : Failure) : String :=
  "Error during " ++ e.stage ++ ": " ++ e.message ++ "\n" ++
    (match e.cause? with
    | some cause => "\nCaused by:\n  1: " ++ cause
    | none => "")

/-- Whether a run goes on after the failure, as if the query had found nothing. -/
def isRecoverable : Failure → Bool
  | catalogQuery _ _ => true
  | _ => false

theorem isRecoverable_iff (e : Failure) :
    e.isRecoverable = true ↔ ∃ entity text, e = catalogQuery entity text := by
  cases e <;> simp [isRecoverable]

end Failure

end SchemaTransfer
