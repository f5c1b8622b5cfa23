import SchemaTransfer.Document.Basic
import SchemaTransfer.Text.Find

/-!
# Reading JSON

A text is one value with blanks around it. Reading never fails: what cannot be read is a cut in
the tree, and everything after it is left unread. Escapes are read as code units of 16 bits first,
so that two of them can make one character.
-/

namespace SchemaTransfer.Document.Json

/-- Whether a character may stand between the parts of a value. -/
def isBlank (c : Char) : Bool := c == ' ' || c == '\n' || c == '\t' || c == '\r'

/-- Leaves the blanks at the start out. -/
def skipBlanks (cs : List Char) : List Char := cs.dropWhile isBlank

/-! ## Texts -/

/-- The code that a character after a backslash stands for. -/
def simpleEscape? : Char → Option Nat
  | '"' => some 34
  | '\\' => some 92
  | '/' => some 47
  | 'b' => some 8
  | 'f' => some 12
  | 'n' => some 10
  | 'r' => some 13
  | 't' => some 9
  | _ => none

/-- The value of a digit of base sixteen. -/
def hexValue? (c : Char) : Option Nat :=
  if '0' ≤ c ∧ c ≤ '9' then some (c.toNat - 48)
  else if 'a' ≤ c ∧ c ≤ 'f' then some (c.toNat - 87)
  else if 'A' ≤ c ∧ c ≤ 'F' then some (c.toNat - 55)
  else none

/-- The value of four digits of base sixteen. -/
def hexUnit? (a b c d : Char) : Option Nat :=
  match hexValue? a, hexValue? b, hexValue? c, hexValue? d with
  | some a, some b, some c, some d => some (4096 * a + 256 * b + 16 * c + d)
  | _, _, _, _ => none

/-- Reads the codes of a text up to its closing quote, with the rest after it. -/
def readCodes : List Char → Option (List Nat × List Char)
  | [] => none
  | '"' :: rest => some ([], rest)
  | '\\' :: 'u' :: a :: b :: c :: d :: rest =>
    match hexUnit? a b c d, readCodes rest with
    | some n, some (codes, rest) => some (n :: codes, rest)
    | _, _ => none
  | '\\' :: c :: rest =>
    match simpleEscape? c, readCodes rest with
    | some n, some (codes, rest) => some (n :: codes, rest)
    | _, _ => none
  | c :: rest =>
    if c.toNat < 0x20 then none
    else
      match readCodes rest with
      | some (codes, rest) => some (c.toNat :: codes, rest)
      | none => none

/-- The characters of codes. Two units of 16 bits that belong together are one character; a unit
that belongs to none makes the text broken. -/
def characters? : List Nat → Option (List Char)
  | [] => some []
  | n :: rest =>
    if 0xD800 ≤ n ∧ n < 0xDC00 then
      match rest with
      | m :: rest =>
        if 0xDC00 ≤ m ∧ m < 0xE000 then
          (characters? rest).map (Char.ofNat (0x10000 + (n - 0xD800) * 0x400 + (m - 0xDC00)) :: ·)
        else none
      | [] => none
    else if 0xDC00 ≤ n ∧ n < 0xE000 then none
    else (characters? rest).map (Char.ofNat n :: ·)

/-- Reads a text after its opening quote. -/
def readText (cs : List Char) : Option (Scalar × List Char) :=
  (readCodes cs).map fun r =>
    match characters? r.1 with
    | some text => (.text (String.ofList text), r.2)
    | none => (.brokenText, r.2)

/-! ## Numbers and words -/

/-- Whether a character is a digit. -/
def isDigit (c : Char) : Bool := '0' ≤ c && c ≤ '9'

/-- One or more digits at the start of a list, with the rest. -/
def readDigits? (cs : List Char) : Option (List Char × List Char) :=
  match cs.takeWhile isDigit with
  | [] => none
  | ds => some (ds, cs.dropWhile isDigit)

/-- The digits before the point: a zero, or digits that start with no zero. -/
def readWhole? (cs : List Char) : Option (List Char × List Char) :=
  match readDigits? cs with
  | some ('0' :: _ :: _, _) => none
  | other => other

/-- The point and the digits after it, if there is a point. -/
def readFraction? : List Char → Option (List Char × List Char)
  | '.' :: rest => readDigits? rest
  | cs => some ([], cs)

/-- The sign and the digits of an exponent. -/
def readSigned? : List Char → Option ((Bool × List Char) × List Char)
  | '+' :: rest => (readDigits? rest).map fun r => ((false, r.1), r.2)
  | '-' :: rest => (readDigits? rest).map fun r => ((true, r.1), r.2)
  | rest => (readDigits? rest).map fun r => ((false, r.1), r.2)

/-- The exponent, if there is one. -/
def readExponent? : List Char → Option (Option (Bool × List Char) × List Char)
  | c :: rest =>
    if c = 'e' ∨ c = 'E' then (readSigned? rest).map fun r => (some r.1, r.2)
    else some (none, c :: rest)
  | [] => some (none, [])

/-- Reads a number after its sign. -/
def readMagnitude? (negative : Bool) (cs : List Char) : Option (NumberText × List Char) :=
  match readWhole? cs with
  | none => none
  | some (whole, cs) =>
    match readFraction? cs with
    | none => none
    | some (fraction, cs) =>
      (readExponent? cs).map fun r => (⟨negative, whole, fraction, r.1⟩, r.2)

/-- Reads a number. -/
def readNumber? : List Char → Option (NumberText × List Char)
  | '-' :: rest => readMagnitude? true rest
  | cs => readMagnitude? false cs

/-- The words and what they stand for. -/
def words : List (List Char × Scalar) :=
  [("null".toList, .null), ("true".toList, .flag true), ("false".toList, .flag false)]

/-- Reads one of the words. -/
def readWord? (cs : List Char) : Option (Scalar × List Char) :=
  words.findSome? fun w => (Text.afterBeginning? w.1 cs).map fun rest => (w.2, rest)

/-- Reads a scalar. -/
def readScalar? (cs : List Char) : Option (Scalar × List Char) :=
  match cs with
  | '"' :: rest => readText rest
  | _ =>
    match readWord? cs with
    | some r => some r
    | none => (readNumber? cs).map fun r => (.number r.1, r.2)

/-! ## Values -/

/-- What was read, and what is left; nothing is left where the text was cut. -/
abbrev Read (α : Type) := α × Option (List Char)

mutual

/-- Reads a value. The first argument bounds the depth of the recursion. -/
def readValue : Nat → List Char → Read Node
  | 0, _ => (.cut, none)
  | fuel + 1, cs =>
    match skipBlanks cs with
    | '[' :: rest =>
      match skipBlanks rest with
      | ']' :: rest => (.list [] true, some rest)
      | _ =>
        let r := readItems fuel rest
        (.list r.1 r.2.isSome, r.2)
    | '\x7b' :: rest =>
      match skipBlanks rest with
      | '\x7d' :: rest => (.map [] true, some rest)
      | _ =>
        let r := readEntries fuel rest
        (.map r.1 r.2.isSome, r.2)
    | cs =>
      match readScalar? cs with
      | some (s, rest) => (.scalar s, some rest)
      | none => (.cut, none)

/-- Reads items up to the closing bracket. -/
def readItems : Nat → List Char → Read (List Node)
  | 0, _ => ([], none)
  | fuel + 1, cs =>
    match readValue fuel cs with
    | (n, none) => ([n], none)
    | (n, some rest) =>
      match skipBlanks rest with
      | ']' :: rest => ([n], some rest)
      | ',' :: rest =>
        match skipBlanks rest with
        | ']' :: _ => ([n], none)
        | _ =>
          let r := readItems fuel rest
          (n :: r.1, r.2)
      | _ => ([n], none)

/-- Reads entries up to the closing brace. -/
def readEntries : Nat → List Char → Read (List (Node × Node))
  | 0, _ => ([], none)
  | fuel + 1, cs =>
    match skipBlanks cs with
    | '"' :: rest =>
      match readText rest with
      | none => ([], none)
      | some (key, rest) =>
        match skipBlanks rest with
        | ':' :: rest =>
          match readValue fuel rest with
          | (n, none) => ([(.scalar key, n)], none)
          | (n, some rest) =>
            match skipBlanks rest with
            | '\x7d' :: rest => ([(.scalar key, n)], some rest)
            | ',' :: rest =>
              let r := readEntries fuel rest
              ((.scalar key, n) :: r.1, r.2)
            | _ => ([(.scalar key, n)], none)
        | _ => ([(.scalar key, .cut)], none)
    | _ => ([], none)

end

/-- Reads a document. -/
def readList (cs : List Char) : Document :=
  let r := readValue (2 * cs.length + 2) cs
  ⟨r.1, match r.2 with | some rest => (skipBlanks rest).isEmpty | none => false⟩

/-- Reads a document. -/
def read (text : String) : Document := readList text.toList

end SchemaTransfer.Document.Json
