import SchemaTransfer.Failure

/-!
# Paths

A path is a list of names between slashes. One that starts with a slash starts at the root of the
file system, any other in the directory where a run takes place. Empty names say nothing, but a
slash at the end asks for a directory.
-/

namespace SchemaTransfer

/-- A path: where it starts, and the names on the way. -/
structure Path where
  absolute : Bool
  names : List String
  /-- Whether the path ends in a slash. -/
  endsInSlash : Bool
  deriving DecidableEq

namespace Path

/-- The parts of a text between slashes. -/
def splitSlashes : List Char → List (List Char)
  | [] => [[]]
  | c :: cs =>
    if c = '/' then [] :: splitSlashes cs
    else
      match splitSlashes cs with
      | part :: parts => (c :: part) :: parts
      | [] => [[c]]

/-- The number of bytes that a path has to stay below. -/
def lengthLimit : Nat := 4096

/-- The greatest number of bytes of a name. -/
def nameLimit : Nat := 255

/-- The path that a text stands for. -/
def ofText (text : String) : Except FileFault Path :=
  if '\x00' ∈ text.toList then .error .nulInName
  else if text = "" then .error .notFound
  else if lengthLimit ≤ text.utf8ByteSize then .error .nameTooLong
  else
    let parts := (splitSlashes text.toList).map String.ofList
    .ok ⟨parts.head? = some "", parts.filter (· != ""), parts.getLast? = some ""⟩

/-- The path of the directory in which a path ends. -/
def parent (p : Path) : Path := { p with names := p.names.dropLast, endsInSlash := false }

/-- The last name, unless it can only be that of a directory. -/
def fileName? (p : Path) : Option String :=
  if p.endsInSlash then none
  else p.names.getLast?.filter fun name => name != "." && name != ".."

end Path

end SchemaTransfer
