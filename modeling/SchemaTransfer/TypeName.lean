import SchemaTransfer.Text.Blank
import SchemaTransfer.Text.Find

/-!
# Type names of the source and what the target calls them

A type arrives as printed text: blanks around it, any number of array marks `[]` after it, a size
between parentheses inside it. The bare name decides the target's name. A name that is not known
passes through as it is and is reported. Main statement: taking the array marks off is done once
and for all.
-/

namespace SchemaTransfer

namespace TypeName

/-- A reversed name without the blanks and array marks that stand at its end. -/
def bareReversed : List Char → List Char
  | ']' :: '[' :: rest => bareReversed rest
  | c :: rest => if Text.isBlank c then bareReversed rest else c :: rest
  | [] => []

/-- A name without the blanks around it and without array marks at its end. -/
def bareList (cs : List Char) : List Char := (bareReversed (Text.trimStart cs).reverse).reverse

/-- A name without the blanks around it and without array marks at its end. -/
def bare (name : String) : String := String.ofList (bareList name.toList)

@[simp] theorem toList_bare (name : String) : (bare name).toList = bareList name.toList := by
  simp [bare]

/-- A second pass finds nothing to take off. -/
theorem bareReversed_bareReversed (cs : List Char) :
    bareReversed (bareReversed cs) = bareReversed cs := by
  fun_induction bareReversed cs with
  | case1 rest ih => exact ih
  | case2 c rest hne hb ih => exact ih
  | case3 c rest hne hb =>
    rw [bareReversed.eq_def]
    split
    · rename_i rest' heq
      simp only [List.cons.injEq] at heq
      exact absurd heq.2 (by intro h; exact hne _ heq.1 h)
    · rename_i heq
      simp only [List.cons.injEq] at heq
      simp [← heq.1, ← heq.2, hb]
    · rename_i heq
      simp at heq
  | case4 => rfl

/-- Whether a name ends with an array mark. -/
def hasArrayMark (name : String) : Bool := Text.endsWith ['[', ']'] name

/-- A name without the first parenthesised modifier in it: `time(3) with time zone` becomes
`time with time zone`. A closing parenthesis before the opening one leaves the name as it is. -/
def withoutModifierList (cs : List Char) : List Char :=
  match Text.cutAt? ['('] cs, Text.cutAt? [')'] cs with
  | some (front, _), some (upToClose, rest) =>
    if front.length < upToClose.length then
      match Text.trimStart rest with
      | [] => Text.trimEnd front
      | tail => Text.trimEnd front ++ [' '] ++ tail
    else cs
  | _, _ => cs

/-- The form under which a name is looked up: lower case, without a modifier. No known name has a
letter to which a character outside the Latin alphabet could be lowered. -/
def lookupKey (name : String) : String :=
  String.ofList (withoutModifierList (Text.lowered name).toList)

end TypeName

/-- The types of the source that have a name in the target. -/
inductive KnownType where
  | bigint | integer | int | smallint
  | numeric | decimal | dec
  | real | doublePrecision | money | boolean
  | char | character | characterVarying | text | xml
  | bytea
  | date | time | timestamp | timestampWithZone
  | uuid
  deriving DecidableEq

namespace KnownType

/-- The names of the source, each with its type. -/
def names : List (String × KnownType) := [
  ("bigint", bigint), ("integer", integer), ("int", int), ("smallint", smallint),
  ("numeric", numeric), ("decimal", decimal), ("dec", dec),
  ("real", real), ("double precision", doublePrecision), ("money", money), ("boolean", boolean),
  ("char", char), ("character", character), ("character varying", characterVarying),
  ("text", text), ("xml", xml), ("bytea", bytea), ("date", date),
  ("time", time), ("time without time zone", time),
  ("timestamp", timestamp), ("timestamp without time zone", timestamp),
  ("timestamp with time zone", timestampWithZone), ("uuid", uuid)]

/-- The name of a type in the target. -/
def targetName : KnownType → String
  | bigint => "bigint"
  | integer => "integer"
  | int => "int"
  | smallint => "smallint"
  | numeric => "numeric"
  | decimal => "decimal"
  | dec => "dec"
  | real => "real"
  | doublePrecision => "double precision"
  | money => "money"
  | boolean => "bit"
  | char => "char"
  | character => "character"
  | characterVarying => "varchar"
  | text => "text"
  | xml => "xml"
  | bytea => "binary"
  | date => "date"
  | time => "time"
  | timestamp => "datetime2"
  | timestampWithZone => "datetimeoffset"
  | uuid => "uniqueidentifier"

end KnownType

/-- A type of the source as its name was read. -/
inductive SourceType where
  | known (type : KnownType)
  | other (name : String)
  deriving DecidableEq

namespace SourceType

/-- Reads a printed type name. An unknown name keeps its case. -/
def ofName (name : String) : SourceType :=
  match KnownType.names.lookup (TypeName.lookupKey (TypeName.bare name)) with
  | some type => .known type
  | none => .other (TypeName.bare name)

/-- The name in the target, if there is one. -/
def targetName? : SourceType → Option String
  | .known type => some type.targetName
  | .other _ => none

end SourceType

/-- What a type name becomes in the target. -/
structure TypeMapping where
  /-- The name in the target, without a size. -/
  target : String
  /-- Whether the target has a name of its own for the type. -/
  isMapped : Bool
  deriving DecidableEq

namespace TypeMapping

/-- The mapping of a printed type name; an unknown name is its own target. -/
def ofName (name : String) : TypeMapping :=
  match SourceType.ofName name with
  | .known type => ⟨type.targetName, true⟩
  | .other name => ⟨name, false⟩

/-- What is said about a name that passes through. -/
def warning? (mapping : TypeMapping) : Option String :=
  if mapping.isMapped then none
  else some ("no SQL Server mapping for type '" ++ mapping.target ++ "'; emitted unchanged")

end TypeMapping

namespace TypeName

/-- The greatest value of an integer type of the target. -/
def capacity? (target : String) : Option Int64 :=
  let key := lookupKey (Text.trim target)
  if key = "tinyint" then some 255
  else if key = "smallint" then some 32767
  else if key = "int" ∨ key = "integer" then some 2147483647
  else if key = "bigint" then some 9223372036854775807
  else none

/-- The greatest length of a fixed binary type. -/
def maxBinaryLength : Int32 := 8000

/-- A positive number, if one is given. -/
def positive? (n : Option Int32) : Option Int32 := n.filter fun n => 0 < n

/-- The text of a 32-bit number. -/
def number (n : Int32) : String := toString n.toInt

/-- A type of the target with its size. A binary type has a fixed length from 1 to 8000 or none.
For every other type a positive size wins; precision and scale go with the exact numeric types
alone, and a character type without a size holds texts of any length. -/
def sized (target : String) (size precision scale : Option Int32) : String :=
  if target = "binary" then
    match size.filter fun n => 1 ≤ n ∧ n ≤ maxBinaryLength with
    | some n => "binary(" ++ number n ++ ")"
    | none => "varbinary(max)"
  else
    match positive? size with
    | some n => target ++ "(" ++ number n ++ ")"
    | none =>
      if target = "numeric" ∨ target = "decimal" ∨ target = "dec" then
        match positive? precision, positive? scale with
        | some p, some s => target ++ "(" ++ number p ++ "," ++ number s ++ ")"
        | some p, none => target ++ "(" ++ number p ++ ")"
        | none, _ => target
      else if target = "varchar" then "varchar(max)"
      else target

end TypeName

end SchemaTransfer
