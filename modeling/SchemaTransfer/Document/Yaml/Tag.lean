import SchemaTransfer.Document.Yaml.Quoted

/-!
# Names of nodes

An anchor is a name of letters and digits. A tag is written out between angle brackets, or as a
handle and what follows it; directives say what a handle stands for. Characters of a tag may be
written as the octets of their codes.
-/

namespace SchemaTransfer.Document.Yaml

/-- The letters and digits at the start, with the rest. -/
def readName (gs : List Glyph) : List Char × List Glyph :=
  ((gs.takeWhile fun g => isNameChar g.char).map (·.char), gs.dropWhile fun g => isNameChar g.char)

/-! ## Anchors -/

/-- Whether the name of an anchor may end here. -/
def endsAnchor : List Glyph → Bool
  | [] => true
  | g :: _ => isGap g || g.char ∈ ['?', ':', ',', ']', '\x7d', '%', '@', '\x60']

/-- Reads the name of an anchor. -/
def readAnchor? (gs : List Glyph) : Option (String × List Glyph) :=
  let (name, rest) := readName gs
  if !name.isEmpty && endsAnchor rest then some (String.ofList name, rest) else none

/-! ## Octets -/

/-- Reads an octet: a percent sign and two digits of base sixteen. -/
def readOctet? : List Glyph → Option (Nat × List Glyph)
  | p :: a :: b :: rest =>
    match p.char == '%', Word.digitOf? 16 a.char, Word.digitOf? 16 b.char with
    | true, some a, some b => some (16 * a + b, rest)
    | _, _, _ => none
  | _ => none

/-- The number of octets after one that leads, and the bits that it gives to the code. -/
def leadingOctet? (n : Nat) : Option (Nat × Nat) :=
  if n < 0x80 then some (0, n)
  else if n < 0xC0 then none
  else if n < 0xE0 then some (1, n - 0xC0)
  else if n < 0xF0 then some (2, n - 0xE0)
  else if n < 0xF8 then some (3, n - 0xF0)
  else none

/-- Reads the octets after one that leads into a code. -/
def readTrailing? (code : Nat) : Nat → List Glyph → Option (Nat × List Glyph)
  | 0, gs => some (code, gs)
  | n + 1, gs =>
    (readOctet? gs).bind fun (octet, rest) =>
      if 0x80 ≤ octet ∧ octet < 0xC0 then readTrailing? (64 * code + (octet - 0x80)) n rest
      else none

/-- The least code that needs so many octets after the first. -/
def leastCode : Nat → Nat
  | 0 => 0
  | 1 => 0x80
  | 2 => 0x800
  | _ => 0x10000

/-- Reads the octets of a character. Octets may stand for no character. -/
def readEscaped? (gs : List Glyph) : Option (Option Char × List Glyph) :=
  (readOctet? gs).bind fun (octet, rest) =>
    (leadingOctet? octet).bind fun (more, bits) =>
      (readTrailing? bits more rest).map fun (code, rest) =>
        (if leastCode more ≤ code then charOfCode? code else none, rest)

/-! ## Tags -/

/-- Whether a character may stand in a tag; where a tag cannot be mistaken for something else, the
signs of the structure may. -/
def isTagChar (anySign : Bool) (c : Char) : Bool :=
  isNameChar c ||
    c ∈ [';', '/', '?', ':', '@', '&', '=', '+', '$', '.', '!', '~', '*', '\'', '(', ')'] ||
    (anySign && c ∈ [',', '[', ']'])

/-- Reads the characters of a tag. The first argument bounds their number. -/
def readTagChars? (anySign : Bool) : Nat → List Glyph → Option (List (Option Char) × List Glyph)
  | 0, _ => none
  | _, [] => some ([], [])
  | fuel + 1, g :: rest =>
    if g.char == '%' then
      (readEscaped? (g :: rest)).bind fun (c, rest) =>
        (readTagChars? anySign fuel rest).map fun r => (c :: r.1, r.2)
    else if isTagChar anySign g.char then
      (readTagChars? anySign fuel rest).map fun r => (some g.char :: r.1, r.2)
    else some ([], g :: rest)

/-- A tag of characters; a NUL ends it. -/
def tagOfChars (chars : List (Option Char)) : Tag := ⟨chars.takeWhile (· != some '\x00')⟩

/-- Reads a tag of one character at least. -/
def readTagText? (anySign : Bool) (gs : List Glyph) : Option (Tag × List Glyph) :=
  (readTagChars? anySign (gs.length + 1) gs).bind fun (chars, rest) =>
    if chars.isEmpty then none else some (tagOfChars chars, rest)

/-- A tag as it is written: a handle, and what follows it. -/
structure TagText where
  /-- The handle; without one the tag is written out. -/
  handle : String
  rest : Tag
  deriving DecidableEq

/-- Reads a tag between angle brackets after the first of them. -/
def readWrittenOut? (gs : List Glyph) : Option (TagText × List Glyph) :=
  (readTagText? true gs).bind fun (tag, rest) =>
    if startsWith '>' rest then some (⟨"", tag⟩, rest.drop 1) else none

/-- Reads a handle with what follows it, after the first sign of the handle. A sign alone stands for
itself. -/
def readWithHandle? (gs : List Glyph) : Option (TagText × List Glyph) :=
  let (name, rest) := readName gs
  if startsWith '!' rest then
    (readTagText? false (rest.drop 1)).map fun (tag, rest) =>
      (⟨String.ofList (['!'] ++ name ++ ['!']), tag⟩, rest)
  else
    (readTagChars? false (rest.length + 1) rest).map fun (chars, rest) =>
      let tag := tagOfChars (name.map some ++ chars)
      (if tag.chars.isEmpty then ⟨"", Tag.ofString "!"⟩ else ⟨"!", tag⟩, rest)

/-- Reads a tag after its first sign. A blank has to follow, or between brackets a comma. -/
def readTag? (inFlow : Bool) (gs : List Glyph) : Option (TagText × List Glyph) :=
  (if startsWith '<' gs then readWrittenOut? (gs.drop 1) else readWithHandle? gs).bind fun r =>
    if (inFlow && startsWith ',' r.2) || endsWord r.2 then some r else none

/-! ## Directives -/

/-- A directive before a document. -/
inductive Directive where
  | version (major minor : Nat)
  /-- What a handle stands for. -/
  | handle (name : String) (tag : Tag)
  deriving DecidableEq

/-- The greatest number of digits of a version. -/
def maxVersionDigits : Nat := 9

/-- Reads a number of a version. -/
def readVersion? (gs : List Glyph) : Option (Nat × List Glyph) :=
  let digits := (gs.takeWhile fun g => g.char.isDigit).map (·.char)
  if maxVersionDigits < digits.length then none
  else (Word.digits? 10 digits).map fun n => (n, gs.dropWhile fun g => g.char.isDigit)

/-- Reads the version of a directive. -/
def readVersionDirective? (gs : List Glyph) : Option (Directive × List Glyph) :=
  (readVersion? gs).bind fun (major, rest) =>
    if startsWith '.' rest then
      (readVersion? (rest.drop 1)).map fun (minor, rest) => (.version major minor, rest)
    else none

/-- Reads the handle of a directive. -/
def readHandle? (gs : List Glyph) : Option (String × List Glyph) :=
  if startsWith '!' gs then
    let (name, rest) := readName (gs.drop 1)
    if startsWith '!' rest then some (String.ofList (['!'] ++ name ++ ['!']), rest.drop 1)
    else if name.isEmpty then some ("!", rest)
    else none
  else none

/-- Reads a handle and the tag that it stands for. -/
def readHandleDirective? (gs : List Glyph) : Option (Directive × List Glyph) :=
  (readHandle? gs).bind fun (name, rest) =>
    if rest.head?.any fun g => isSpace g.char then
      (readTagText? true (skipSpaces rest)).bind fun (tag, rest) =>
        if endsWord rest then some (.handle name tag, rest) else none
    else none

/-- Reads a directive after its sign to the end of its line. -/
def readDirective? (gs : List Glyph) : Option (Directive × List Glyph) :=
  let (name, rest) := readName gs
  if endsWord rest then
    let body :=
      if name = "YAML".toList then readVersionDirective? (skipSpaces rest)
      else if name = "TAG".toList then readHandleDirective? (skipSpaces rest)
      else none
    body.bind fun (directive, rest) => (afterLine? rest).map fun rest => (directive, rest)
  else none

end SchemaTransfer.Document.Yaml
