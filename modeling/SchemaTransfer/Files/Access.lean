import SchemaTransfer.Failure
import SchemaTransfer.Text.Find

/-!
# Access to files

The steps by which a run reads and writes files, each of which can fail. A run is written over
these steps alone, so that what it does can be followed on any model of files.
-/

namespace SchemaTransfer

/-- The steps by which files are read and written. -/
structure FileAccess (m : Type → Type) where
  /-- The whole text of a file. -/
  readText : (path : String) → m (Except FileFault String)
  /-- Makes a directory with every directory above it. -/
  makeDirectories : (path : String) → m (Except FileFault Unit)
  /-- Makes a file empty, if need be after making it. -/
  createFile : (path : String) → m (Except FileFault Unit)
  /-- Adds a text at the end of a file. -/
  append : (path text : String) → m (Except FileFault Unit)
  /-- Waits until what was added is in the file. -/
  flush : (path : String) → m (Except FileFault Unit)
  /-- The number of bytes of a file. -/
  size : (path : String) → m (Except FileFault Nat)

namespace FileAccess

variable {m : Type → Type} [Monad m]

/-- A step whose fault is a failure of the run. -/
def attempt {α : Type} (failure : FileFault → Failure) (step : m (Except FileFault α)) :
    ExceptT Failure m α :=
  ExceptT.mk do
    match ← step with
    | .ok a => return .ok a
    | .error fault => return .error (failure fault)

/-- Writes a whole file. -/
def writeText (files : FileAccess m) (path text : String) : ExceptT Failure m Unit := do
  attempt (.output path) (files.createFile path)
  attempt (.output path) (files.append path text)

end FileAccess

/-- The path of a file in a directory. -/
def pathInside (directory file : String) : String :=
  if directory = "" ∨ Text.endsWith ['/'] directory = true then directory ++ file
  else directory ++ "/" ++ file

end SchemaTransfer
