import SchemaTransfer.Document.Basic

/-!
# Characters in their places

Where a character stands decides what it means: its line and its column count, and how far it is
from the start. A text is therefore read as a list of characters with their places. All line breaks
but two become one and the same.

A text is taken in stretches, and a character that may not stand in a text spoils its stretch: only
what stands before the stretch can be read.
-/

namespace SchemaTransfer.Document.Yaml

/-- Where a character stands. -/
structure Place where
  /-- The number of bytes before the character. -/
  index : Nat
  line : Nat
  column : Nat
  deriving DecidableEq

/-- The place after a character of so many bytes on the same line. -/
def Place.next (p : Place) (width : Nat) : Place :=
  ⟨p.index + width, p.line, p.column + 1⟩

/-- The place after a line break of so many bytes. -/
def Place.nextLine (p : Place) (width : Nat) : Place := ⟨p.index + width, p.line + 1, 0⟩

/-- A character in its place. -/
structure Glyph where
  char : Char
  place : Place

/-- The column of a character. -/
def Glyph.column (g : Glyph) : Nat := g.place.column

/-! ## Classes of characters -/

/-- Whether a character is a blank within a line. -/
def isSpace (c : Char) : Bool := c == ' ' || c == '\t'

/-- Whether a character ends a line. -/
def isBreak (c : Char) : Bool := c == '\n' || c == '\u2028' || c == '\u2029'

/-- Whether a character is one of those that end a line as a line feed does. -/
def isFeed (c : Char) : Bool := c == '\n' || c == '\r' || c == '\u0085'

/-- Whether a glyph is a blank or a line break. -/
def isGap (g : Glyph) : Bool := isSpace g.char || isBreak g.char

/-- Whether a character may stand in a name. -/
def isNameChar (c : Char) : Bool := c.isAlphanum || c == '_' || c == '-'

/-- Whether a character may stand in a text at all. -/
def isAllowed (c : Char) : Bool :=
  let n := c.toNat
  n == 9 || n == 10 || n == 13 || (0x20 ≤ n && n ≤ 0x7E) || n == 0x85 ||
    (0xA0 ≤ n && n ≤ 0xFFFD) || 0x10000 ≤ n

/-! ## Places -/

/-- Puts characters in their places, from a given place on, and gives the place after them. The
glyphs so far come last first. -/
def placeFrom (done : List Glyph) (p : Place) : List Char → List Glyph × Place
  | [] => (done.reverse, p)
  | '\r' :: '\n' :: cs => placeFrom (⟨'\n', p⟩ :: done) (p.nextLine 2) cs
  | c :: cs =>
    if isFeed c then placeFrom (⟨'\n', p⟩ :: done) (p.nextLine c.utf8Size) cs
    else if isBreak c then placeFrom (⟨c, p⟩ :: done) (p.nextLine c.utf8Size) cs
    else placeFrom (⟨c, p⟩ :: done) (p.next c.utf8Size) cs

/-- The characters of a text in their places, and the place after them. -/
def glyphs (cs : List Char) : List Glyph × Place := placeFrom [] ⟨0, 0, 0⟩ cs

/-! ## Stretches -/

/-- The greatest number of bytes of a stretch. -/
def stretchSize : Nat := 16384

/-- The characters of the stretches before the first that is spoilt, and whether none is. The
stretches so far and the current one come last first, with the bytes that the current one has
room for. -/
def readable (before stretch : List Char) (room : Nat) : List Char → List Char × Bool
  | [] => ((stretch ++ before).reverse, true)
  | c :: cs =>
    if c.utf8Size ≤ room then
      if isAllowed c then readable before (c :: stretch) (room - c.utf8Size) cs
      else (before.reverse, false)
    else if isAllowed c then
      readable (stretch ++ before) [c] (stretchSize - c.utf8Size) cs
    else ((stretch ++ before).reverse, false)

/-! ## What starts at a place -/

/-- Whether a character stands at the start. -/
def startsWith (c : Char) : List Glyph → Bool
  | [] => false
  | g :: _ => g.char == c

/-- Whether what precedes ends here: at a blank, a line break or the end of the text. -/
def endsWord : List Glyph → Bool
  | [] => true
  | g :: _ => isGap g

/-- Whether a line ends here. -/
def endsLine : List Glyph → Bool
  | [] => true
  | g :: _ => isBreak g.char

/-- Whether a line of three equal signs starts here, which begins or ends a document. -/
def startsMarker (sign : Char) : List Glyph → Bool
  | a :: b :: c :: rest =>
    a.column == 0 && a.char == sign && b.char == sign && c.char == sign && endsWord rest
  | _ => false

/-- Whether a document begins or ends here. -/
def atMarker (gs : List Glyph) : Bool := startsMarker '-' gs || startsMarker '.' gs

/-- Leaves the blanks at the start out. -/
def skipSpaces (gs : List Glyph) : List Glyph := gs.dropWhile fun g => isSpace g.char

/-- Leaves the rest of a line out, but for its break. -/
def skipLine (gs : List Glyph) : List Glyph := gs.dropWhile fun g => !isBreak g.char

/-- What follows the break of a line that holds nothing more but blanks and a comment. -/
def afterLine? (gs : List Glyph) : Option (List Glyph) :=
  let gs := skipSpaces gs
  let gs := if startsWith '#' gs then skipLine gs else gs
  if endsLine gs then some (gs.drop 1) else none

/-- Leaves blanks, line breaks and comments out; tells whether a key may stand after them. A line
break allows a key unless brackets show the structure. Tabs may stand where a key may not, and a
mark of byte order at the start of a line counts as nothing. The second argument tells whether the
text is in a comment. -/
def skip (inFlow : Bool) : Bool → (keyAllowed : Bool) → List Glyph → Bool × List Glyph
  | _, keyAllowed, [] => (keyAllowed, [])
  | inComment, keyAllowed, g :: gs =>
    if isBreak g.char then skip inFlow false (keyAllowed || !inFlow) gs
    else if inComment then skip inFlow true keyAllowed gs
    else if g.char == ' ' || (g.char == '\t' && (inFlow || !keyAllowed)) ||
        (g.char == '\uFEFF' && g.column == 0) then
      skip inFlow false keyAllowed gs
    else if g.char == '#' then skip inFlow true keyAllowed gs
    else (keyAllowed, g :: gs)

end SchemaTransfer.Document.Yaml
