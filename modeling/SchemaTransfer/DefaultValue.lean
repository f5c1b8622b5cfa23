import SchemaTransfer.Identifier.Qualified
import SchemaTransfer.Text.Blank
import SchemaTransfer.Text.Find

/-!
# Default expressions

A default arrives as the expression that the source prints. A call of `nextval` becomes the next
value of the sequence that its literal names; a cast keeps its operand when the target reads the
operand alike without the cast; the current time and the two truth values have their own words;
everything else is written as it stands.
-/

namespace SchemaTransfer

/-- What a default expression becomes. -/
inductive DefaultValue where
  /-- The expression as it stands. -/
  | literal (text : String)
  /-- The current time. -/
  | now
  | boolean (value : Bool)
  /-- The next value of a sequence. -/
  | nextValue (schema sequence : String)
  /-- The operand of a cast, without the cast. -/
  | passThrough (text : String)
  /-- Nothing of the target corresponds. -/
  | unsupported
  deriving DecidableEq

namespace DefaultValue

/-- The types whose casts can be dropped. -/
def droppableCasts : List String :=
  ["bpchar", "date", "timestamp without time zone", "character", "character varying",
    "interval", "text"]

/-- The text between the first two single quotes. -/
def firstLiteral? (cs : List Char) : Option (List Char) := do
  let (_, rest) ← Text.cutAt? ['\''] cs
  let (inner, _) ← Text.cutAt? ['\''] rest
  return inner

/-- The sequence named in a call; a name without a schema belongs to the given one. -/
def calledSequence? (schema : String) (call : List Char) : Option (String × String) := do
  let inner ← firstLiteral? call
  match Text.trimList inner with
  | [] => none
  | name =>
    match (Identifier.splitList name).map String.ofList with
    | [sequence] => some (schema, sequence)
    | [schema, sequence] => some (schema, sequence)
    | _ => none

/-- The type of a cast: the text after the double colon, up to a size. -/
def castType (cs : List Char) : List Char :=
  let cast := Text.trimList cs
  match Text.cutAt? ['('] cast with
  | some (name, _) => Text.trimEnd name
  | none => cast

/-- Reads a default expression without blanks around it. -/
def ofExpression (schema : String) (expr : List Char) : DefaultValue :=
  if (Text.afterBeginning? "nextval(".toList expr).isSome then
    match calledSequence? schema expr with
    | some (schema, sequence) => nextValue schema sequence
    | none => unsupported
  else
    match Text.cutAt? [':', ':'] expr with
    | some (value, cast) =>
      if String.ofList (castType cast) ∈ droppableCasts then passThrough (String.ofList value)
      else unsupported
    | none =>
      if expr = "now()".toList then now
      else if expr.map Text.lowerLatin = "true".toList then boolean true
      else if expr.map Text.lowerLatin = "false".toList then boolean false
      else literal (String.ofList expr)

/-- Reads the default expression of a column in a schema. -/
def ofText (schema raw : String) : DefaultValue := ofExpression schema (Text.trimList raw.toList)

/-- The expression in the target, if there is one. -/
def expression? : DefaultValue → Option String
  | literal text => some text
  | passThrough text => some text
  | now => some "GETDATE()"
  | boolean true => some "1"
  | boolean false => some "0"
  | nextValue schema sequence =>
    some ("NEXT VALUE FOR " ++ Identifier.inBrackets schema ++ "." ++
      Identifier.inBrackets sequence)
  | unsupported => none

end DefaultValue

end SchemaTransfer
