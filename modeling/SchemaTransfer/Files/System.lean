import SchemaTransfer.Files.Access
import SchemaTransfer.Files.Path
import SchemaTransfer.Files.Tree

/-!
# A file system

A tree of files and the directory in it where a run takes place. A path is walked name by name:
every name is looked up in a directory, `.` stays there and `..` goes back. Nothing else has access
to the tree, so each step finds what the steps before it left.
-/

namespace SchemaTransfer

/-- A tree of files, and the place where a run takes place. -/
structure FileSystem where
  root : FileTree
  /-- The names on the way to the directory where relative paths start. -/
  home : List String

namespace FileSystem

/-! ## Walks -/

/-- Where a walk has arrived. -/
structure Spot where
  /-- The names on the way, each with the directory that it was looked up in, the last first. -/
  trail : List (String × FileTree)
  here : FileTree

namespace Spot

/-- The names on the way. -/
def place (s : Spot) : List String := (s.trail.map (·.1)).reverse

/-- One directory back; the root is above itself. -/
def above (s : Spot) : Spot :=
  match s.trail with
  | [] => s
  | (_, directory) :: trail => ⟨trail, directory⟩

/-- Goes one name further. -/
def enter (s : Spot) (name : String) : Except FileFault Spot :=
  match s.here with
  | .file _ => .error .notADirectory
  | .directory entries =>
    if name = "." then .ok s
    else if name = ".." then .ok s.above
    else if Path.nameLimit < name.utf8ByteSize then .error .nameTooLong
    else
      match entries.lookup name with
      | some t => .ok ⟨(name, s.here) :: s.trail, t⟩
      | none => .error .notFound

/-- Goes further name by name. -/
def walk (s : Spot) : List String → Except FileFault Spot
  | [] => .ok s
  | name :: names =>
    match s.enter name with
    | .ok next => next.walk names
    | .error fault => .error fault

/-- Walking along two lists of names is walking along one and then along the other. -/
theorem walk_append (s : Spot) (xs ys : List String) :
    s.walk (xs ++ ys) = (s.walk xs).bind fun t => t.walk ys := by
  induction xs generalizing s with
  | nil => rfl
  | cons name xs ih =>
    simp only [List.cons_append, walk]
    cases s.enter name with
    | ok next => exact ih next
    | error => rfl

/-- Whether a directory is here. -/
def isDirectory (s : Spot) : Bool :=
  match s.here with
  | .file _ => false
  | .directory _ => true

end Spot

/-- Where walks along absolute paths start. -/
def top (fs : FileSystem) : Spot := ⟨[], fs.root⟩

/-- Where the walk along a path starts. -/
def start (fs : FileSystem) (p : Path) : Spot :=
  if p.absolute then fs.top
  else
    match fs.top.walk fs.home with
    | .ok s => s
    | .error _ => fs.top

/-- Walks to the end of a path. -/
def find (fs : FileSystem) (p : Path) : Except FileFault Spot := (fs.start p).walk p.names

/-- A file system with something put at a place. -/
def put (fs : FileSystem) (place : List String) (t : FileTree) : FileSystem :=
  { fs with root := fs.root.put place t }

/-! ## Steps -/

/-- The text of a file. -/
def readText (fs : FileSystem) (p : Path) : Except FileFault String :=
  match fs.find p with
  | .error fault => .error fault
  | .ok s =>
    match s.here with
    | .directory _ => .error .isADirectory
    | .file text => if p.endsInSlash then .error .notADirectory else .ok text

/-- Makes a file empty, if need be after making it. -/
def createFile (fs : FileSystem) (p : Path) : Except FileFault FileSystem :=
  match fs.find p.parent with
  | .error fault => .error fault
  | .ok s =>
    match s.here, p.fileName? with
    | .file _, _ => .error .notADirectory
    | .directory _, none => .error .isADirectory
    | .directory _, some name =>
      match s.enter name with
      | .ok ⟨_, .directory _⟩ => .error .isADirectory
      | .ok ⟨_, .file _⟩ => .ok (fs.put (s.place ++ [name]) (.file ""))
      | .error .notFound => .ok (fs.put (s.place ++ [name]) (.file ""))
      | .error fault => .error fault

/-- Adds a text at the end of a file. -/
def append (fs : FileSystem) (p : Path) (text : String) : Except FileFault FileSystem :=
  match fs.find p, fs.readText p with
  | .ok s, .ok before => .ok (fs.put s.place (.file (before ++ text)))
  | _, .error fault => .error fault
  | .error fault, _ => .error fault

/-- Makes one directory. -/
def makeDirectory (fs : FileSystem) (p : Path) : Except FileFault FileSystem :=
  match fs.find p.parent, p.names.getLast? with
  | .error fault, _ => .error fault
  | .ok _, none => .error .alreadyExists
  | .ok s, some name =>
    match s.enter name with
    | .ok _ => .error .alreadyExists
    | .error .notFound => .ok (fs.put (s.place ++ [name]) (.directory []))
    | .error fault => .error fault

/-- Whether a path leads to a directory. -/
def isDirectory (fs : FileSystem) (p : Path) : Bool :=
  match fs.find p with
  | .ok s => s.isDirectory
  | .error _ => false

/-- The outcome of a step, with the file system after it. -/
abbrev Outcome := Except FileFault Unit × FileSystem

/-- Makes one directory unless it is there. -/
def ensureDirectory (fs : FileSystem) (p : Path) : Outcome :=
  match fs.makeDirectory p with
  | .ok made => (.ok (), made)
  | .error fault => (if fs.isDirectory p then .ok () else .error fault, fs)

/-- Makes a directory with every directory above it. The names on the way to the directory above
it come last first, dots left out. What was made before a fault stays. -/
def makeDirectories (fs : FileSystem) (p : Path) : List String → Outcome
  | [] => fs.ensureDirectory p
  | name :: above =>
    match fs.makeDirectory p with
    | .error .notFound =>
      match fs.makeDirectories { p with names := (name :: above).reverse, endsInSlash := false }
          above with
      | (.ok (), made) => made.ensureDirectory p
      | failed => failed
    | _ => fs.ensureDirectory p

/-- The names on the way to the directory above a path, the last first, dots left out. -/
def namesAbove (p : Path) : List String := (p.names.filter (· != ".")).reverse.drop 1

/-- A step that only looks. -/
def looking {α : Type} (path : String) (step : FileSystem → Path → Except FileFault α) :
    StateM FileSystem (Except FileFault α) :=
  fun fs => ((Path.ofText path).bind (step fs), fs)

/-- A step that changes the file system when it succeeds. -/
def changing (path : String) (step : FileSystem → Path → Except FileFault FileSystem) :
    StateM FileSystem (Except FileFault Unit) :=
  fun fs =>
    match (Path.ofText path).bind (step fs) with
    | .ok changed => (.ok (), changed)
    | .error fault => (.error fault, fs)

/-- Makes the directory of a path in words; nothing is to be made for an empty one. -/
def makeAll (path : String) : StateM FileSystem (Except FileFault Unit) := fun fs =>
  if path = "" then (.ok (), fs)
  else
    match Path.ofText path with
    | .error fault => (.error fault, fs)
    | .ok p => fs.makeDirectories p (namesAbove p)

/-- The steps on a file system. -/
def access : FileAccess (StateM FileSystem) where
  readText path := looking path readText
  makeDirectories path := makeAll path
  createFile path := changing path createFile
  append path text := changing path (append · · text)
  flush _ := return .ok ()
  size path := looking path fun fs p => (fs.readText p).map String.utf8ByteSize

/-! ## Files by path -/

/-- A file system that holds nothing but its home and the null device, which reads as empty. -/
def bare : FileSystem :=
  let home := ["tmp", "work"]
  ⟨((FileTree.directory []).put ["dev", "null"] (.file "")).put home (.directory []), home⟩

/-- A file system with a file put at a path below its home, and every directory on the way. -/
def withFile (fs : FileSystem) (path text : String) : FileSystem :=
  match Path.ofText path with
  | .error _ => fs
  | .ok p => fs.put (fs.home ++ p.names.filter (· != ".")) (.file text)

/-- The file system of the given files. -/
def ofFiles (files : List (String × String)) : FileSystem :=
  files.foldl (fun fs f => fs.withFile f.1 f.2) bare

/-- Every file below the home with its path. -/
def files (fs : FileSystem) : List (String × String) :=
  ((fs.root.get? fs.home).map FileTree.files).getD [] |>.map fun f =>
    (String.ofList (Text.joined ['/'] (f.1.map String.toList)), f.2)

end FileSystem

end SchemaTransfer
