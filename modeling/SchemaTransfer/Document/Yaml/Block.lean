import SchemaTransfer.Document.Yaml.Plain

/-!
# Block texts

A block text holds whole lines, which start at a column of their own: either one that the header
says, or the greatest column that a line of blanks before the first line reaches. Its lines are kept
as they are, or each line break between two lines that do not start with a blank is folded. The
header also says which of the line breaks at the end belong to the text.
-/

namespace SchemaTransfer.Document.Yaml

/-- Which line breaks at the end belong to a text. -/
inductive Chomping where
  /-- None. -/
  | strip
  /-- The first. -/
  | clip
  /-- All. -/
  | keep
  deriving DecidableEq

/-- What the header of a block text says. -/
structure BlockHeader where
  chomping : Chomping := .clip
  /-- By how many columns the lines stand further to the right than what is around them. -/
  increment : Option Nat := none

/-- The chomping that a sign stands for. -/
def chomping? (c : Char) : Option Chomping := [('-', .strip), ('+', .keep)].lookup c

/-- Reads the chomping of a header. -/
def readChomping : List Glyph → Chomping × List Glyph
  | [] => (.clip, [])
  | g :: rest =>
    match chomping? g.char with
    | some chomping => (chomping, rest)
    | none => (.clip, g :: rest)

/-- Reads the increment of a header, which is a digit other than zero. -/
def readIncrement? : List Glyph → Option (Option Nat × List Glyph)
  | [] => some (none, [])
  | g :: rest =>
    match Word.digitOf? 10 g.char with
    | some 0 => none
    | some n => some (some n, rest)
    | none => some (none, g :: rest)

/-- Reads a header, its parts in either order, to the end of its line. -/
def readHeader? (gs : List Glyph) : Option (BlockHeader × List Glyph) :=
  let first := readChomping gs
  (readIncrement? first.2).bind fun (increment, rest) =>
    let last := if first.1 = .clip then readChomping rest else (first.1, rest)
    (afterLine? last.2).map fun rest => (⟨last.1, increment⟩, rest)

/-- Reads the blank lines before a line of text: their line breaks, the greatest column reached, and
what is left. Blanks count up to the column of the text, if it is known; a tab before it is a fault.
The line breaks so far come last first. -/
def readBlankLines? (column : Option Nat) (breaks : List Char) (greatest : Nat) :
    List Glyph → Option (List Char × Nat × List Glyph)
  | [] => some (breaks, greatest, [])
  | g :: rest =>
    let greatest := max greatest g.column
    let before := column.all (g.column < ·)
    if before && g.char == ' ' then readBlankLines? column breaks (max greatest (g.column + 1)) rest
    else if before && g.char == '\t' then none
    else if isBreak g.char then readBlankLines? column (g.char :: breaks) greatest rest
    else some (breaks, greatest, g :: rest)

/-- The line breaks between two lines of a folded text as they read, from the break of the first
line and those of the blank lines after it. -/
def foldedBreaks (lineBreak : List Char) (breaks : List Char) : List Char :=
  if lineBreak = ['\n'] then (if breaks.isEmpty then [' '] else breaks) else lineBreak ++ breaks

/-- A block text while it is read; its parts come last first. -/
structure BlockText where
  done : List Char := []
  /-- The break of the last line. -/
  lineBreak : List Char := []
  /-- The breaks of the blank lines after the last line. -/
  breaks : List Char := []
  /-- Whether the last line starts with a blank. -/
  blank : Bool := false

namespace BlockText

/-- The line breaks before a further line. -/
def between (t : BlockText) (literal blank : Bool) : List Char :=
  if !literal && !t.blank && !blank then foldedBreaks t.lineBreak t.breaks.reverse
  else t.lineBreak ++ t.breaks.reverse

/-- The text with a further line. -/
def addLine (t : BlockText) (literal blank : Bool) (line lineBreak breaks : List Char) :
    BlockText where
  done := line.reverse ++ (t.between literal blank).reverse ++ t.done
  lineBreak := lineBreak
  breaks := breaks
  blank := blank

/-- The whole text. -/
def finish (t : BlockText) (chomping : Chomping) : String :=
  let ending :=
    match chomping with
    | .strip => []
    | .clip => t.lineBreak
    | .keep => t.lineBreak ++ t.breaks.reverse
  String.ofList (t.done.reverse ++ ending)

end BlockText

/-- Reads the lines of a block text at a column. The first argument bounds their number. -/
def readLines? (literal : Bool) (column : Nat) :
    Nat → BlockText → List Glyph → Option (BlockText × List Glyph)
  | 0, t, gs => some (t, gs)
  | _, t, [] => some (t, [])
  | fuel + 1, t, g :: rest =>
    if g.column ≠ column then some (t, g :: rest)
    else
      let line := (g :: rest).takeWhile fun g => !isBreak g.char
      let after := skipLine (g :: rest)
      (readBlankLines? (some column) [] 0 (after.drop 1)).bind fun (breaks, _, next) =>
        readLines? literal column fuel
          (t.addLine literal (isSpace g.char) (line.map (·.char)) ((after.take 1).map (·.char))
            breaks) next

/-- Reads a block text after its sign. What is around it starts at the given column, if it starts
at one. -/
def readBlock? (literal : Bool) (around : Option Nat) (gs : List Glyph) :
    Option (String × List Glyph) :=
  (readHeader? gs).bind fun (header, rest) =>
    let given := header.increment.map fun n => around.getD 0 + n
    (readBlankLines? given [] 0 rest).bind fun (breaks, greatest, rest) =>
      let column := given.getD (max greatest (max (around.elim 0 (· + 1)) 1))
      (readLines? literal column (rest.length + 1) { breaks } rest).map fun (t, rest) =>
        (t.finish header.chomping, rest)

end SchemaTransfer.Document.Yaml
