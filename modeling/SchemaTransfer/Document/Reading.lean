import SchemaTransfer.Document.Fault

/-!
# Reading values from documents

A reader takes a node to a value or to the first fault in the order of the text. Records are read
field by field: the entries are gone through in their order, then missing fields are looked for in
the order of declaration. Entries with unknown names are passed over. One format also admits a
record as the list of its fields.

An alias reads as the node that it stands for. Tags matter for scalars only: where they do not name
a variant they change how a mismatch is described, and what may be missing.
-/

namespace SchemaTransfer.Document

/-- The document that a node belongs to: its format and the nodes that aliases stand for. -/
structure Scope where
  format : Format
  /-- The nodes with the numbers of their anchors; the first of a number is the one that counts. -/
  anchored : List (Nat × Node) := []

namespace Scope

/-- The scope of a document; of several nodes with one number the last counts. -/
def ofDocument (format : Format) (d : Document) : Scope := ⟨format, d.root.anchors.reverse⟩

/-- The node that a node stands for. -/
def resolve (s : Scope) : Node → Node
  | .alias i => (s.anchored.lookup i).getD .cut
  | n => n

/-- The tag and the content that a node stands for. -/
def look (s : Scope) (n : Node) : Option Tag × Node := (s.resolve n).bare

end Scope

/-- A reader of values. -/
abbrev Reader (α : Type) := Scope → Node → Except Fault α

namespace Reader

/-- Reads scalars of a kind. -/
def scalar {α : Type} (expected : String) (meaning : Option Tag → Scalar → Option α) : Reader α :=
  fun s n =>
    let (tag, content) := s.look n
    let found :=
      match content with
      | .scalar v => meaning tag v
      | _ => none
    match found with
    | some a => .ok a
    | none => .error (content.unexpected tag expected)

/-- A text, described as expected. -/
def textAs (expected : String) : Reader String := scalar expected fun _ v => v.text?

/-- A text. -/
def text : Reader String := textAs "a string"

/-- The text of a scalar that may be read as one of a kind: a word, or a text that stands as it is
under the tag of the kind. -/
def written? (kind : ScalarKind) (tag : Option Tag) : Scalar → Option String
  | .word s => some s
  | .verbatim s => if tag = some kind.tag then some s else none
  | _ => none

/-- The truth value that a scalar stands for, if it is one. -/
def flag? (tag : Option Tag) : Scalar → Option Bool
  | .flag b => some b
  | v => (written? .flag tag v).bind Word.flag?

/-- A truth value. -/
def flag : Reader Bool := scalar "a boolean" flag?

/-- The integer that a scalar stands for, if it is one. -/
def integer? (meaning : String → Option Int) (tag : Option Tag) : Scalar → Option Int
  | .number t =>
    match t.value with
    | .integer n => some n
    | _ => none
  | v => (written? .integer tag v).bind meaning

/-- An integer between two bounds; a word has the given meaning. -/
def integer (low high : Int) (meaning : String → Option Int) (expected : String) : Reader Int :=
  fun s n =>
    match scalar expected (integer? meaning) s n with
    | .ok i =>
      if low ≤ i ∧ i ≤ high then .ok i
      else .error (.mismatch [] (.invalidValue (integerDescription i) expected))
    | .error fault => .error fault

/-- An integer of 32 bits. -/
def int32 : Reader Int32 := fun s n =>
  (integer Int32.minValue.toInt Int32.maxValue.toInt Word.signed64? "i32" s n).map Int32.ofInt

/-- An integer of 64 bits. -/
def int64 : Reader Int64 := fun s n =>
  (integer Int64.minValue.toInt Int64.maxValue.toInt Word.signed64? "i64" s n).map Int64.ofInt

/-- A natural number of 16 bits. -/
def nat16 : Reader UInt16 := fun s n =>
  (integer 0 (UInt16.size - 1) Word.unsigned64? "u16" s n).map fun i => UInt16.ofNat i.toNat

/-- A natural number of 64 bits. -/
def nat64 : Reader UInt64 := fun s n =>
  (integer 0 (UInt64.size - 1) Word.unsigned64? "u64" s n).map fun i => UInt64.ofNat i.toNat

/-- Whether a word stands for nothing. -/
def isNothing (w : String) : Bool := w == "" || Word.isNull w

/-- A value that may be missing. The tag for null refuses every word but those for null, and any
other tag makes a word count as given. -/
def optional {α : Type} (r : Reader α) : Reader (Option α) := fun s n =>
  match s.look n with
  | (_, .scalar .null) => .ok none
  | (none, .scalar (.word w)) => if isNothing w then .ok none else (r s n).map some
  | (some tag, .scalar (.word w)) =>
    if tag != ScalarKind.null.tag then (r s n).map some
    else if Word.isNull w then .ok none
    else .error (.mismatchWithin (.invalidValue (textDescription w) ScalarKind.null.expectation))
  | _ => (r s n).map some

/-- The items of a list from a position on. -/
def items {α : Type} (r : Reader α) (s : Scope) (closed : Bool) :
    Nat → List Node → Except Fault (List α)
  | _, [] => if closed then .ok [] else .error .malformed
  | i, n :: rest =>
    match r s n with
    | .error fault => .error (fault.inside (.index i))
    | .ok a => (items r s closed (i + 1) rest).map (a :: ·)

/-- A list; an empty word is an empty list. -/
def list {α : Type} (r : Reader α) : Reader (List α) := fun s n =>
  match s.look n with
  | (_, .list ns closed) => items r s closed 0 ns
  | (_, .scalar (.word "")) => .ok []
  | (tag, content) => .error (content.unexpected tag "a sequence")

/-- The fault of a name that is not among those of the variants. -/
def unknownVariant {α : Type} (known : List (String × α)) (name : String) : Mismatch :=
  .unknownVariant name (known.map (·.1))

/-- What follows the tag that names a variant: nothing. -/
def nothing : Node → Except Fault Unit
  | .scalar (.word w) =>
    if isNothing w then .ok ()
    else .error (.mismatch [] (.invalidValue (textDescription w) ScalarKind.null.expectation))
  | .scalar v =>
    match v.text? with
    | some w =>
      .error (.mismatch [] (.invalidValue (textDescription w) ScalarKind.null.expectation))
    | none => .error .malformed
  | n => .error (n.unexpected none "unit")

/-- One of several named values, whose name is given as a text or as a tag. -/
def variant {α : Type} (known : List (String × α)) : Reader α := fun s n =>
  let byName (name : String) (fault : Mismatch → Fault) : Except Fault α :=
    match known.lookup name with
    | some a => .ok a
    | none => .error (fault (unknownVariant known name))
  let (tag, content) := s.look n
  match tag.bind Tag.localName? with
  | some name =>
    let chosen := (byName name .mismatchWithin).bind fun a => (nothing content).map fun _ => a
    match n with
    | .alias _ => chosen.mapError Fault.here
    | _ => chosen
  | none =>
    match s.format, content with
    | _, .scalar (.text w) => byName w (.mismatch [])
    | .yaml, .scalar (.word w) => byName w (.mismatch [])
    | .yaml, .scalar (.verbatim w) => byName w (.mismatch [])
    | .yaml, .list _ _ => .error (content.unexpected tag "a YAML tag starting with '!'")
    | .yaml, .map _ _ => .error (content.unexpected tag "a YAML tag starting with '!'")
    | _, _ => .error .malformed

end Reader

/-- A reader of records: what is checked of each field, and how the fields make a record, from
named fields or from a list of them. -/
structure RecordReader (α : Type) where
  /-- The names of the fields, each with its check. -/
  fields : List (String × Reader Unit)
  /-- The record of named fields that passed their checks. -/
  ofMembers : Scope → List (String × Node) → Except Fault α
  /-- The record of the items from a position on, with the items that are left. -/
  ofItems : Scope → (expected : String) → (closed : Bool) → Nat → List Node →
    Except Fault (α × List Node)

namespace RecordReader

/-- What stands for a field that is not given. -/
inductive Absent (α : Type) where
  /-- The field must be given. -/
  | refused
  /-- A value that stands in for a field missing from a map, but not from a list. -/
  | unnamed (value : α)
  /-- A value that stands in for a missing field. -/
  | value (value : α)

/-- A record without fields. -/
protected def pure {α : Type} (a : α) : RecordReader α where
  fields := []
  ofMembers _ _ := .ok a
  ofItems _ _ _ _ items := .ok (a, items)

/-- One field. -/
def field {α : Type} (name : String) (r : Reader α) (absent : Absent α) : RecordReader α where
  fields := [(name, fun s n => (r s n).map fun _ => ())]
  ofMembers s members :=
    match members.lookup name with
    | some n => r s n
    | none =>
      match absent with
      | .refused => .error (.mismatch [] (.missingField name))
      | .unnamed a => .ok a
      | .value a => .ok a
  ofItems s expected closed i items :=
    match items with
    | n :: rest =>
      match r s n with
      | .error fault => .error (fault.inside (.index i))
      | .ok a => .ok (a, rest)
    | [] =>
      if closed then
        match absent with
        | .value a => .ok (a, [])
        | _ => .error (.mismatch [] (.invalidLength i expected))
      else .error .malformed

/-- A field that must be given. -/
def required {α : Type} (name : String) (r : Reader α) : RecordReader α := field name r .refused

/-- A field with a value that stands in for it. -/
def withDefault {α : Type} (name : String) (r : Reader α) (a : α) : RecordReader α :=
  field name r (.value a)

/-- The fields of a function and those of its argument, in this order. -/
protected def seq {α β : Type} (g : RecordReader (α → β)) (x : RecordReader α) :
    RecordReader β where
  fields := g.fields ++ x.fields
  ofMembers s members :=
    match g.ofMembers s members with
    | .error fault => .error fault
    | .ok h => (x.ofMembers s members).map h
  ofItems s expected closed i items :=
    match g.ofItems s expected closed i items with
    | .error fault => .error fault
    | .ok (h, items) =>
      (x.ofItems s expected closed (i + g.fields.length) items).map fun r => (h r.1, r.2)

instance : Functor RecordReader where
  map h x := .seq (.pure h) x

instance : Applicative RecordReader where
  pure := .pure
  seq g x := g.seq (x ())

/-- The name that a key stands for. -/
def keyName (s : Scope) (n : Node) : Except Fault String :=
  Reader.textAs "field identifier" s n

/-- The step of a path from a map to the value of a key; that of an alias has no name. -/
def keyStep (name : String) : Node → Step
  | .alias _ => .key "?"
  | _ => .key name

/-- Checks the entries of a map in their order; gives the known ones by name. -/
def members {α : Type} (r : RecordReader α) (s : Scope) (closed : Bool) :
    (seen : List String) → List (Node × Node) → Except Fault (List (String × Node))
  | _, [] => if closed then .ok [] else .error .malformed
  | seen, (key, value) :: rest =>
    match keyName s key with
    | .error fault => .error fault
    | .ok name =>
      match r.fields.lookup name with
      | none => if value.isWhole then r.members s closed seen rest else .error .malformed
      | some check =>
        if name ∈ seen then .error (.mismatch [] (.duplicateField name))
        else
          match check s value with
          | .error fault => .error (fault.inside (keyStep name key))
          | .ok _ => (r.members s closed (name :: seen) rest).map ((name, value) :: ·)

/-- A record of the given name. -/
def read {α : Type} (name : String) (r : RecordReader α) : Reader α := fun s n =>
  match s.format, s.look n with
  | _, (_, .map entries closed) => (r.members s closed [] entries).bind (r.ofMembers s)
  | .json, (_, .list ns closed) =>
    let expected := "struct " ++ name ++ " with " ++ toString r.fields.length ++
      (if r.fields.length = 1 then " element" else " elements")
    match r.ofItems s expected closed 0 ns with
    | .error fault => .error fault
    | .ok (a, left) => if left.isEmpty && closed then .ok a else .error .malformed
  | .yaml, (_, .scalar (.word "")) => r.ofMembers s []
  | _, (tag, content) => .error (content.unexpected tag ("struct " ++ name))

end RecordReader

/-- Reads a whole document. -/
def readRoot {α : Type} (r : Reader α) (f : Format) (d : Document) : Except Fault α :=
  match r (.ofDocument f d) d.root with
  | .error fault => .error fault
  | .ok a => if d.ended then .ok a else .error .malformed

end SchemaTransfer.Document
