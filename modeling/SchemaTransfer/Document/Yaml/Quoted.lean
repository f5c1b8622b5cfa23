import SchemaTransfer.Document.Word
import SchemaTransfer.Document.Yaml.Glyph

/-!
# Quoted texts

A text in single quotes holds every character as it is, and two quotes for one. In double quotes a
backslash starts an escape. Both may go on over several lines: one line break between two lines
reads as a space, and of several the first is left out; blanks around line breaks count as nothing.
-/

namespace SchemaTransfer.Document.Yaml

/-! ## Gaps -/

/-- Line breaks between two lines as they read. -/
def folded : List Char → List Char
  | [] => []
  | '\n' :: [] => [' ']
  | '\n' :: breaks => breaks
  | breaks => breaks

/-- How a gap of blanks and line breaks reads: as its line breaks, or as its blanks if there is no
line break. -/
def gapText (gap : List Char) : List Char :=
  match gap.filter isBreak with
  | [] => gap
  | breaks => folded breaks

/-! ## Single quotes -/

/-- Reads a text in single quotes after the first of them. What was read and the gap after it come
last first. -/
def readSingle (done gap : List Char) : List Glyph → Option (String × List Glyph)
  | [] => none
  | g :: rest =>
    if atMarker (g :: rest) then none
    else if isGap g then readSingle done (g.char :: gap) rest
    else
      let done := (gapText gap.reverse).reverse ++ done
      if g.char == '\'' then
        match rest with
        | h :: rest =>
          if h.char == '\'' then readSingle ('\'' :: done) [] rest
          else some (String.ofList done.reverse, h :: rest)
        | [] => some (String.ofList done.reverse, [])
      else readSingle (g.char :: done) [] rest

/-! ## Double quotes -/

/-- The character that a letter after a backslash stands for. -/
def simpleEscape? (c : Char) : Option Char :=
  [('0', '\x00'), ('a', '\x07'), ('b', '\x08'), ('t', '\t'), ('\t', '\t'), ('n', '\n'),
    ('v', '\x0b'), ('f', '\x0c'), ('r', '\r'), ('e', '\x1b'), (' ', ' '), ('"', '"'),
    ('/', '/'), ('\\', '\\'), ('N', '\u0085'), ('_', '\u00a0'), ('L', '\u2028'),
    ('P', '\u2029')].lookup c

/-- The number of digits after a letter that announces the code of a character. -/
def codeLength? (c : Char) : Option Nat := [('x', 2), ('u', 4), ('U', 8)].lookup c

/-- The character of a code. -/
def charOfCode? (n : Nat) : Option Char := if n.isValidChar then some (Char.ofNat n) else none

/-- Where a text in double quotes goes on. -/
inductive DoubleState where
  /-- After a gap, which comes last first. -/
  | text (gap : List Char)
  /-- After an escaped line break and a gap, which comes last first. -/
  | nextLine (gap : List Char)
  /-- After a backslash. -/
  | escape
  /-- Within a code of which so many digits are left. -/
  | code (left value : Nat)

/-- How the gap reads before which a text goes on: after an escaped line break every further line
break counts. -/
def DoubleState.gapText : DoubleState → List Char
  | text gap => Yaml.gapText gap.reverse
  | nextLine gap => gap.reverse.filter isBreak
  | escape => []
  | code _ _ => []

/-- The state after a further glyph of a gap. -/
def DoubleState.addGap (c : Char) : DoubleState → DoubleState
  | nextLine gap => nextLine (c :: gap)
  | text gap => text (c :: gap)
  | _ => text [c]

/-- Reads a text in double quotes after the first of them. What was read comes last first. -/
def readDouble (done : List Char) : DoubleState → List Glyph → Option (String × List Glyph)
  | _, [] => none
  | .escape, g :: rest =>
    if isBreak g.char then readDouble done (.nextLine []) rest
    else
      match simpleEscape? g.char, codeLength? g.char with
      | some c, _ => readDouble (c :: done) (.text []) rest
      | none, some n => readDouble done (.code n 0) rest
      | none, none => none
  | .code left value, g :: rest =>
    match Word.digitOf? 16 g.char with
    | none => none
    | some d =>
      let value := 16 * value + d
      if left ≤ 1 then
        match charOfCode? value with
        | some c => readDouble (c :: done) (.text []) rest
        | none => none
      else readDouble done (.code (left - 1) value) rest
  | state, g :: rest =>
    if atMarker (g :: rest) then none
    else if isGap g then readDouble done (state.addGap g.char) rest
    else
      let done := state.gapText.reverse ++ done
      if g.char == '"' then some (String.ofList done.reverse, rest)
      else if g.char == '\\' then readDouble done .escape rest
      else readDouble (g.char :: done) (.text []) rest

/-- Reads a quoted text after its first quote. -/
def readQuoted? (quote : Char) (gs : List Glyph) : Option (String × List Glyph) :=
  if quote = '\'' then readSingle [] [] gs else readDouble [] (.text []) gs

end SchemaTransfer.Document.Yaml
