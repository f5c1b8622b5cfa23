import SchemaTransfer.CommandLine.Session

/-!
# The program

Files are those of the system; results go to the output, failures to the error output.
-/

namespace SchemaTransfer

/-- The fault that an error of the system is. -/
def FileFault.ofError : IO.Error → FileFault
  | .noFileOrDirectory _ _ _ => .notFound
  | .noSuchThing _ _ _ => .notFound
  | .alreadyExists _ _ _ => .alreadyExists
  | .inappropriateType _ 20 _ => .notADirectory
  | .inappropriateType _ 21 _ => .isADirectory
  | .invalidArgument _ 36 _ => .nameTooLong
  | error => .other (toString error)

/-- A step of the system. -/
def systemStep {α : Type} (step : IO α) : IO (Except FileFault α) := do
  try
    return .ok (← step)
  catch error =>
    return .error (.ofError error)

/-- The files of the system. -/
def systemFiles : FileAccess IO where
  readText path := systemStep (IO.FS.readFile path)
  makeDirectories path := systemStep (IO.FS.createDirAll path)
  createFile path := systemStep (IO.FS.writeFile path "")
  append path text := systemStep (IO.FS.withFile path .append fun file => file.putStr text)
  flush path := systemStep (IO.FS.withFile path .append fun file => file.flush)
  size path := systemStep do
    let bytes ← IO.FS.readBinFile path
    return bytes.size

end SchemaTransfer

/-- Carries out what the arguments ask for. -/
def main (arguments : List String) : IO UInt32 := do
  match SchemaTransfer.CommandLine.Invocation.ofArguments? arguments with
  | none =>
    IO.eprintln "error: unusable arguments"
    return SchemaTransfer.CommandLine.usageExitCode.toUInt32
  | some invocation =>
    let session ← SchemaTransfer.CommandLine.run SchemaTransfer.systemFiles invocation
    IO.print session.output
    IO.eprint session.errorText
    return session.exitCode.toUInt32
