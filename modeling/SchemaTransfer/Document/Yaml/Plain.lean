import SchemaTransfer.Document.Yaml.Quoted

/-!
# Words without quotes

A word ends where a comment, a colon before a blank or a document mark stands, between brackets at
the signs of the structure as well, and elsewhere where a line starts too far to the left. It may go
on over several lines, whose gaps read as in quoted texts.
-/

namespace SchemaTransfer.Document.Yaml

/-- Whether a character has a meaning between brackets. -/
def isFlowSign (c : Char) : Bool := c ∈ [',', '[', ']', '\x7b', '\x7d']

/-- The characters with which no word starts. -/
def reservedSigns : List Char :=
  ['-', '?', ':', ',', '[', ']', '\x7b', '\x7d', '#', '&', '*', '!', '|', '>', '\'', '"', '%',
    '@', '\x60']

/-- Whether a word starts here. -/
def startsWord (inFlow : Bool) : List Glyph → Bool
  | [] => false
  | g :: rest =>
    !isGap g &&
      (!reservedSigns.contains g.char ||
        (g.char == '-' && !(rest.head?.any fun h => isSpace h.char)) ||
        (!inFlow && (g.char == '?' || g.char == ':') && !endsWord rest))

/-- Whether a colon stands here that is followed by a sign of the structure between brackets. -/
def atClashingColon : List Glyph → Bool
  | g :: h :: _ => g.char == ':' && (isFlowSign h.char || h.char == '?')
  | _ => false

/-- Whether a word ends here. -/
def stopsWord (inFlow : Bool) : List Glyph → Bool
  | [] => true
  | g :: rest => (g.char == ':' && endsWord rest) || (inFlow && isFlowSign g.char)

/-- Whether a gap, which comes last first, holds a line break. -/
def hasBreak (gap : List Char) : Bool := gap.any isBreak

/-- A word as it was read. -/
structure Word where
  text : String
  /-- The blanks and line breaks after the word. -/
  gap : List Char

/-- A word of what was read and the gap after it, both last first. -/
def Word.ofRead (done gap : List Char) : Word := ⟨String.ofList done.reverse, gap.reverse⟩

/-- Whether a line break stands after a word. -/
def Word.endsWithBreak (w : Word) : Bool := hasBreak w.gap

/-- Reads a word whose lines after the first start at a given column or after it; tabs do not make
up for the blanks before that column. What was read and the gap after it come last first. -/
def readWord (inFlow : Bool) (least : Nat) (done gap : List Char) :
    List Glyph → Option (Word × List Glyph)
  | [] => some (.ofRead done gap, [])
  | g :: rest =>
    if isGap g then
      if g.char == '\t' && hasBreak gap && g.column < least then none
      else readWord inFlow least done (g.char :: gap) rest
    else if !gap.isEmpty && ((!inFlow && g.column < least) || atMarker (g :: rest) ||
        g.char == '#') then
      some (.ofRead done gap, g :: rest)
    else if inFlow && atClashingColon (g :: rest) then none
    else if stopsWord inFlow (g :: rest) then some (.ofRead done gap, g :: rest)
    else readWord inFlow least (g.char :: ((gapText gap.reverse).reverse ++ done)) [] rest

end SchemaTransfer.Document.Yaml
