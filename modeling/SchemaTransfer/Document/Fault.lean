import SchemaTransfer.Document.Word
import SchemaTransfer.Text.Quoted

/-!
# Faults of a document

A document is malformed, or it holds something that does not fit where it stands. The place is a
path of keys and positions from the root; one of the formats shows it. What was found is described
by its kind and value.
-/

namespace SchemaTransfer.Document

/-- One step of a path. -/
inductive Step where
  | key (name : String)
  | index (i : Nat)
  deriving DecidableEq

/-- What does not fit. -/
inductive Mismatch where
  | missingField (name : String)
  | duplicateField (name : String)
  | unknownVariant (found : String) (known : List String)
  /-- Something of another kind. -/
  | invalidType (found expected : String)
  /-- Something of the kind, but not among the values. -/
  | invalidValue (found expected : String)
  | invalidLength (found : Nat) (expected : String)
  deriving DecidableEq

/-- A fault of a document. -/
inductive Fault where
  | malformed
  | mismatch (path : List Step) (cause : Mismatch)
  /-- A mismatch whose place is that of the node around it. -/
  | mismatchWithin (cause : Mismatch)
  deriving DecidableEq

/-- A name between back quotes. -/
def backQuoted (name : String) : String := "\x60" ++ name ++ "\x60"

namespace Mismatch

/-- The names of the known variants. -/
def variantList (known : List String) : String :=
  match known with
  | [] => "there are no variants"
  | [only] => "expected " ++ backQuoted only
  | [first, second] => "expected " ++ backQuoted first ++ " or " ++ backQuoted second
  | _ => "expected one of " ++ String.ofList (Text.joined [',', ' ']
      (known.map fun name => (backQuoted name).toList))

/-- The wording of a mismatch. -/
def message : Mismatch → String
  | missingField name => "missing field " ++ backQuoted name
  | duplicateField name => "duplicate field " ++ backQuoted name
  | unknownVariant found known =>
    "unknown variant " ++ backQuoted found ++ ", " ++ variantList known
  | invalidType found expected => "invalid type: " ++ found ++ ", expected " ++ expected
  | invalidValue found expected => "invalid value: " ++ found ++ ", expected " ++ expected
  | invalidLength found expected =>
    "invalid length " ++ toString found ++ ", expected " ++ expected

end Mismatch

/-- A path after the text of the steps before it. -/
def pathAfter (front : String) : List Step → String
  | [] => front
  | .key name :: rest => pathAfter (if front = "" then name else front ++ "." ++ name) rest
  | .index i :: rest =>
    pathAfter ((if front = "" then "." else front) ++ "[" ++ toString i ++ "]") rest

/-- The place of a fault, as it is shown. -/
def pathText (path : List Step) : String := pathAfter "" path

namespace Fault

/-- The wording of a fault that is not one of form, in a format. -/
def message? (format : Format) : Fault → Option String
  | malformed => none
  | mismatch path cause =>
    match format, path with
    | .yaml, _ :: _ => some (pathText path ++ ": " ++ cause.message)
    | _, _ => some cause.message
  | mismatchWithin cause => some cause.message

/-- The fault as seen from one step above. -/
def inside (step : Step) : Fault → Fault
  | malformed => malformed
  | mismatch path cause => mismatch (step :: path) cause
  | mismatchWithin cause => mismatch [] cause

/-- The fault with its place, if it has none yet, here. -/
def here : Fault → Fault
  | mismatchWithin cause => mismatch [] cause
  | fault => fault

end Fault

/-- An integer as it is described. -/
def integerDescription (n : Int) : String := "integer " ++ backQuoted (toString n)

/-- A floating point number as it is described. -/
def floatDescription (text : String) : String := "floating point " ++ backQuoted text

/-- A truth value as it is described. -/
def flagDescription (value : Bool) : String :=
  "boolean " ++ backQuoted (if value then "true" else "false")

/-- A text as it is described. -/
def textDescription (value : String) : String := "string " ++ Text.quoted value

/-- A word for null as it is described. -/
def nullDescription : String := "unit value"

/-- An integer that is written as a word as it is described. -/
def integerWordDescription? (word : String) : Option String :=
  match Word.natural? (Nat.pow 2 128 - 1) word.toList with
  | some n =>
    some (if n < Nat.pow 2 64 then integerDescription n else integerDescription n ++ " as u128")
  | none =>
    (Word.negative? (Nat.pow 2 127) word.toList).map fun n =>
      if Int64.minValue.toInt ≤ n then integerDescription n else integerDescription n ++ " as i128"

/-- A floating point number that is written as a word as it is described. -/
def floatWordDescription? (word : String) : Option String :=
  (Word.float? word).map fun x => floatDescription x.text

/-- A bare word as it is described: by the first of its meanings. Digits after a leading zero are no
floating point number either. -/
def wordDescription (word : String) : String :=
  if word = "" ∨ Word.isNull word = true then nullDescription
  else
    (((Word.flag? word).map flagDescription).or <| (integerWordDescription? word).or <|
      if Word.hasLeadingZero word.toList then none else floatWordDescription? word).getD
        (textDescription word)

/-- A scalar as it is described; a broken text or a number that is too great has no description. -/
def Scalar.description? : Scalar → Option String
  | .null => some "null"
  | .flag value => some (flagDescription value)
  | .number t =>
    match t.value with
    | .integer n => some (integerDescription n)
    | .float negative x => some (floatDescription (FloatNotation.compact.write negative x))
    | .outOfRange => none
  | .text value => some (textDescription value)
  | .verbatim value => some (textDescription value)
  | .brokenText => none
  | .word w => some (wordDescription w)

/-! ## Tags of scalars -/

/-- The kinds of scalars that have a tag in every document. -/
inductive ScalarKind where
  | flag
  | integer
  | float
  | null
  deriving DecidableEq

namespace ScalarKind

/-- The tag of a kind. -/
def tag (k : ScalarKind) : Tag :=
  let name :=
    match k with
    | flag => "bool"
    | integer => "int"
    | float => "float"
    | null => "null"
  Tag.ofString ("tag:yaml.org,2002:" ++ name)

/-- The kind of a tag. -/
def ofTag? (t : Tag) : Option ScalarKind := [flag, integer, float, null].find? fun k => k.tag = t

/-- What a scalar of the kind has to be. -/
def expectation : ScalarKind → String
  | flag => "a boolean"
  | integer => "an integer"
  | float => "a float"
  | null => "null"

/-- A text as it is described that is to be read as a scalar of the kind. -/
def description? (k : ScalarKind) (text : String) : Option String :=
  match k with
  | flag => (Word.flag? text).map flagDescription
  | integer => integerWordDescription? text
  | float => floatWordDescription? text
  | null => if Word.isNull text then some nullDescription else none

/-- The mismatch of a scalar with a tag of the kind where something else is expected: its text may
not even be one of the kind. -/
def mismatch (k : ScalarKind) (text expected : String) : Mismatch :=
  match k.description? text with
  | some found => .invalidType found expected
  | none => .invalidValue (textDescription text) k.expectation

end ScalarKind

/-- A scalar with another tag as it is described: a tag of one document alone leaves a word its
meaning, any other makes it a text. -/
def Scalar.taggedDescription? (tag : Tag) (s : Scalar) : Option String :=
  match s with
  | .word w => some (if tag.isLocal then wordDescription w else textDescription w)
  | _ => s.description?

/-- A fault that describes what was found, if it can be described. -/
def Fault.ofFound (expected : String) : Option String → Fault
  | some found => .mismatch [] (.invalidType found expected)
  | none => .malformed

/-- The fault of finding a scalar where something else is expected. -/
def Scalar.unexpected (tag : Option Tag) (s : Scalar) (expected : String) : Fault :=
  match tag with
  | none => .ofFound expected s.description?
  | some tag =>
    match ScalarKind.ofTag? tag, s.text? with
    | some kind, some written => .mismatch [] (kind.mismatch written expected)
    | _, _ => .ofFound expected (s.taggedDescription? tag)

/-- The fault of finding a node where something else is expected. -/
def Node.unexpected (tag : Option Tag) (n : Node) (expected : String) : Fault :=
  match n with
  | .scalar s => s.unexpected tag expected
  | .list _ _ => .ofFound expected (some "sequence")
  | .map _ _ => .ofFound expected (some "map")
  | _ => .malformed

end SchemaTransfer.Document
