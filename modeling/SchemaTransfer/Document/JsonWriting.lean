import SchemaTransfer.Document.Json

/-!
# Writing JSON

A value is written over several lines, each member on a line of its own and indented by two
spaces for each level; lists and records without members are written on one line. Only quotes,
backslashes and control characters are escaped.
-/

namespace SchemaTransfer.Document

/-- A value to write. -/
inductive Value where
  | null
  | flag (value : Bool)
  | integer (n : Int)
  | text (value : String)
  | list (items : List Value)
  | record (members : List (String × Value))

namespace Value

/-- A value that may be missing. -/
def optional {α : Type} (write : α → Value) : Option α → Value
  | some a => write a
  | none => .null

/-- Texts. -/
def texts (items : List String) : Value := .list (items.map .text)

end Value

namespace Json

/-- A digit of base sixteen, lower case. -/
def hexDigit (n : Nat) : Char := if n < 10 then Char.ofNat (48 + n) else Char.ofNat (87 + n)

/-- One character of a written text. -/
def writeChar (c : Char) : List Char :=
  if c = '"' then ['\\', '"']
  else if c = '\\' then ['\\', '\\']
  else if c = '\x08' then ['\\', 'b']
  else if c = '\x0c' then ['\\', 'f']
  else if c = '\n' then ['\\', 'n']
  else if c = '\r' then ['\\', 'r']
  else if c = '\t' then ['\\', 't']
  else if c.toNat < 0x20 then
    ['\\', 'u', '0', '0', hexDigit (c.toNat / 16), hexDigit (c.toNat % 16)]
  else [c]

/-- A written text with its quotes. -/
def writeText (s : String) : List Char := ['"'] ++ s.toList.flatMap writeChar ++ ['"']

/-- A line break and the indentation of a level. -/
def newLine (level : Nat) : List Char := '\n' :: List.replicate (2 * level) ' '

/-- A written integer. -/
def writeInteger (n : Int) : List Char :=
  if n < 0 then '-' :: Nat.toDigits 10 n.natAbs else Nat.toDigits 10 n.natAbs

mutual

/-- A written value at a level. -/
def writeValue (level : Nat) : Value → List Char
  | .null => "null".toList
  | .flag true => "true".toList
  | .flag false => "false".toList
  | .integer n => writeInteger n
  | .text s => writeText s
  | .list [] => ['[', ']']
  | .list (v :: vs) =>
    ['['] ++ newLine (level + 1) ++ writeValue (level + 1) v ++ writeItems (level + 1) vs ++
      newLine level ++ [']']
  | .record [] => ['\x7b', '\x7d']
  | .record ((name, v) :: ms) =>
    ['\x7b'] ++ newLine (level + 1) ++ writeText name ++ [':', ' '] ++
      writeValue (level + 1) v ++ writeMembers (level + 1) ms ++ newLine level ++ ['\x7d']

/-- The items after the first. -/
def writeItems (level : Nat) : List Value → List Char
  | [] => []
  | v :: vs => [','] ++ newLine level ++ writeValue level v ++ writeItems level vs

/-- The members after the first. -/
def writeMembers (level : Nat) : List (String × Value) → List Char
  | [] => []
  | (name, v) :: ms =>
    [','] ++ newLine level ++ writeText name ++ [':', ' '] ++ writeValue level v ++
      writeMembers level ms

end

/-- A written value. -/
def write (v : Value) : String := String.ofList (writeValue 0 v)

end Json

end SchemaTransfer.Document
