import SchemaTransfer.Document.Yaml.Block
import SchemaTransfer.Document.Yaml.Tag

/-!
# Tokens

A token is a scalar, a name of a node or a sign of the structure. Lines and columns show the
structure as signs do: a list or map of lines starts where its first part stands, and ends where a
line starts further to the left.

What starts a node may turn out to be a key when a colon follows it. Until that is known its token
and those after it are held back. A key has to end on the line where it starts, after 1024 bytes at
most. Where the text cannot be read on, the tokens that are held back are lost with the rest.
-/

namespace SchemaTransfer.Document.Yaml

/-- A piece of a text. -/
inductive Token where
  | directive (directive : Directive)
  | documentStart
  | documentEnd
  /-- A list of lines starts. -/
  | listStart
  /-- A map of lines starts. -/
  | mapStart
  /-- A list or map of lines ends. -/
  | blockEnd
  | openBracket
  | closeBracket
  | openBrace
  | closeBrace
  | comma
  /-- An item of a list of lines follows. -/
  | item
  /-- A key follows. -/
  | key
  /-- The value of a key follows. -/
  | value
  | alias (name : String)
  | anchor (name : String)
  | tag (tag : TagText)
  | scalar (value : Scalar)
  /-- The text ends. -/
  | textEnd
  deriving DecidableEq

/-- A place where a key may have started. -/
structure KeyStart where
  /-- The number of tokens before the key. -/
  number : Nat
  place : Place
  /-- Whether nothing but a key can stand there. -/
  required : Bool

/-- How far a key may reach from its start. -/
def keyLimit : Nat := 1024

/-- Whether a key can no longer reach a place. -/
def KeyStart.isStale (k : KeyStart) (p : Place) : Bool :=
  k.place.line < p.line || k.place.index + keyLimit < p.index

/-- How far a text has been read. -/
structure Progress where
  rest : List Glyph
  /-- The place after the rest. -/
  stop : Place
  /-- Whether the rest goes on to the end of the text. -/
  whole : Bool
  /-- The columns of the lists and maps of lines that are open, the innermost first. -/
  columns : List Nat := []
  /-- Where a key may have started, at each level of brackets, the innermost first. -/
  keys : List (Option KeyStart) := [none]
  /-- Whether a key may start here. -/
  keyAllowed : Bool := true
  /-- The tokens that are held back. -/
  held : List Token := []
  /-- The number of tokens that were given out. -/
  given : Nat := 0

namespace Progress

/-- The place where the rest starts. -/
def place (s : Progress) : Place :=
  match s.rest with
  | g :: _ => g.place
  | [] => s.stop

/-- Whether brackets show the structure here. -/
def inFlow (s : Progress) : Bool := 1 < s.keys.length

/-- The column after that of the innermost open list or map of lines. -/
def least (s : Progress) : Nat := s.columns.head?.elim 0 (· + 1)

/-- A further token. -/
def add (s : Progress) (t : Token) : Progress := { s with held := s.held ++ [t] }

/-- Takes a token with the rest after it. -/
def take (s : Progress) (t : Token) (rest : List Glyph) (keyAllowed : Bool) : Progress :=
  { s.add t with rest, keyAllowed }

/-! ## Keys -/

/-- A possible key that did not become one; a required one is a fault. -/
def dropped (k : KeyStart) : Option (Option KeyStart) := if k.required then none else some none

/-- A possible key that stays one as long as it can reach a place. -/
def refreshed (p : Place) : Option KeyStart → Option (Option KeyStart)
  | some k => if k.isStale p then dropped k else some (some k)
  | none => some none

/-- Drops the keys that can no longer reach the place where the rest starts. -/
def dropStale (s : Progress) : Option Progress :=
  (s.keys.mapM (refreshed s.place)).map fun keys => { s with keys }

/-- Drops the possible key of the innermost level. -/
def dropKey (s : Progress) : Option Progress :=
  match s.keys with
  | some k :: outer => (dropped k).map fun key => { s with keys := key :: outer }
  | _ => some s

/-- Notes that a key may start with the next token. -/
def noteKey (s : Progress) (p : Place) : Option Progress :=
  if s.keyAllowed then
    s.dropKey.map fun s =>
      let required := !s.inFlow && s.columns.head? = some p.column
      { s with keys := some ⟨s.given + s.held.length, p, required⟩ :: s.keys.drop 1 }
  else some s

/-! ## Columns -/

/-- Opens a list or map of lines at a column, if none is open there, with its token at a place among
those held back. -/
def openAt (s : Progress) (column position : Nat) (t : Token) : Progress :=
  if s.inFlow || column < s.least then s
  else
    { s with
      columns := column :: s.columns
      held := s.held.take position ++ [t] ++ s.held.drop position }

/-- The columns that stay open at a column, and the number of those that do not. -/
def closing (column : Option Nat) : List Nat → List Nat × Nat
  | [] => ([], 0)
  | c :: outer =>
    if column.all (· < c) then
      let r := closing column outer
      (r.1, r.2 + 1)
    else (c :: outer, 0)

/-- Closes the lists and maps of lines to the right of a column; without a column, all. -/
def closeTo (s : Progress) (column : Option Nat) : Progress :=
  if s.inFlow then s
  else
    let r := closing column s.columns
    { s with columns := r.1, held := s.held ++ List.replicate r.2 .blockEnd }

/-! ## Single tokens -/

/-- Ends the text, and with it the last line. -/
def endText (s : Progress) : Option Progress :=
  (s.closeTo none).dropKey.map fun s =>
    { s.take .textEnd [] false with
      stop := if s.stop.column = 0 then s.stop else s.stop.nextLine 0 }

/-- Takes a token that stands outside of every document. -/
def outside (s : Progress) (t : Token) (rest : List Glyph) : Option Progress :=
  (s.closeTo none).dropKey.map fun s => s.take t rest false

/-- Takes an opening bracket. -/
def openFlow (s : Progress) (p : Place) (t : Token) (rest : List Glyph) : Option Progress :=
  (s.noteKey p).map fun s => { s.take t rest true with keys := none :: s.keys }

/-- Takes a closing bracket. -/
def closeFlow (s : Progress) (t : Token) (rest : List Glyph) : Option Progress :=
  s.dropKey.map fun s =>
    { s.take t rest false with keys := if s.inFlow then s.keys.drop 1 else s.keys }

/-- Takes the sign of an item or a key, which where lines and columns show the structure opens a
list or map. -/
def takeSign (s : Progress) (p : Place) (start t : Token) (rest : List Glyph)
    (keyAllowed : Bool) : Option Progress :=
  if s.inFlow || s.keyAllowed then
    (s.openAt p.column s.held.length start).dropKey.map fun s => s.take t rest keyAllowed
  else none

/-- Takes the sign of a value. What may have been a key before it becomes one. -/
def takeValue (s : Progress) (p : Place) (rest : List Glyph) : Option Progress :=
  match s.keys with
  | some k :: outer =>
    let position := k.number - s.given
    let keyed :=
      { s with
        held := s.held.take position ++ [Token.key] ++ s.held.drop position
        keys := none :: outer }
    some ((keyed.openAt k.place.column position .mapStart).take .value rest false)
  | _ =>
    if s.inFlow || s.keyAllowed then
      some ((s.openAt p.column s.held.length .mapStart).take .value rest (!s.inFlow))
    else none

/-- Takes what starts a node and may be a key. -/
def takeNode (s : Progress) (p : Place) (read : Option (Token × List Glyph)) : Option Progress :=
  (s.noteKey p).bind fun s => read.map fun (t, rest) => s.take t rest false

/-- Takes a block text. -/
def takeBlock (s : Progress) (literal : Bool) (rest : List Glyph) : Option Progress :=
  s.dropKey.bind fun s =>
    (readBlock? literal s.columns.head? rest).map fun (text, rest) =>
      let scalar := if literal then Scalar.verbatim text else .text text
      s.take (.scalar scalar) rest true

/-- The number of glyphs that have to be there before a token is taken, unless the text ends. -/
def lookahead : Nat := 4

/-- Whether so many glyphs are there, or the text ends. -/
def reaches (s : Progress) (n : Nat) : Bool := s.whole || (s.rest.take n).length == n

/-- The number of glyphs that show where a word ends. Where a line starts too far to the left one
is enough; after blanks the word could go on as a token starts; else a colon is seen with what
follows it. -/
def wordLookahead (s : Progress) (word : Word) : Nat :=
  if !s.inFlow && s.place.column < s.least then 1
  else if word.gap.isEmpty then 2
  else lookahead

/-- Takes a word. -/
def takeWord (s : Progress) (p : Place) (gs : List Glyph) : Option Progress :=
  (s.noteKey p).bind fun s =>
    (readWord s.inFlow s.least [] [] gs).bind fun (word, rest) =>
      let s := s.take (.scalar (.word word.text)) rest word.endsWithBreak
      if s.reaches (s.wordLookahead word) then some s else none

/-- Takes the token that starts with a glyph. -/
def takeAt (s : Progress) (g : Glyph) (rest : List Glyph) : Option Progress :=
  let gs := g :: rest
  let c := g.char
  let p := g.place
  if p.column == 0 && c == '%' then
    (readDirective? rest).bind fun (directive, rest) => s.outside (.directive directive) rest
  else if startsMarker '-' gs then s.outside .documentStart (gs.drop 3)
  else if startsMarker '.' gs then s.outside .documentEnd (gs.drop 3)
  else if c == '[' then s.openFlow p .openBracket rest
  else if c == '\x7b' then s.openFlow p .openBrace rest
  else if c == ']' then s.closeFlow .closeBracket rest
  else if c == '\x7d' then s.closeFlow .closeBrace rest
  else if c == ',' then s.dropKey.map fun s => s.take .comma rest true
  else if c == '-' && endsWord rest then s.takeSign p .listStart .item rest true
  else if c == '?' && (s.inFlow || endsWord rest) then
    s.takeSign p .mapStart .key rest (!s.inFlow)
  else if c == ':' && (s.inFlow || endsWord rest) then s.takeValue p rest
  else if c == '*' then
    s.takeNode p ((readAnchor? rest).map fun (name, rest) => (.alias name, rest))
  else if c == '&' then
    s.takeNode p ((readAnchor? rest).map fun (name, rest) => (.anchor name, rest))
  else if c == '!' then
    s.takeNode p ((readTag? s.inFlow rest).map fun (tag, rest) => (.tag tag, rest))
  else if !s.inFlow && (c == '|' || c == '>') then s.takeBlock (c == '|') rest
  else if c == '\'' || c == '"' then
    s.takeNode p ((readQuoted? c rest).map fun (text, rest) => (.scalar (.text text), rest))
  else if startsWord s.inFlow gs then s.takeWord p gs
  else none

/-- Takes the next token. -/
def takeNext (s : Progress) : Option Progress :=
  let r := skip s.inFlow false s.keyAllowed s.rest
  let s := { s with rest := r.2, keyAllowed := r.1 }
  if s.reaches lookahead then
    s.dropStale.bind fun s =>
      match s.rest with
      | [] => s.endText
      | g :: rest => ((s.closeTo (some g.column)).takeAt g rest).filter (·.reaches 1)
  else none

/-! ## All tokens -/

/-- Whether the first token held back may stand after the start of a key. -/
def isWaiting (s : Progress) : Bool :=
  s.held.isEmpty || s.keys.any fun key => key.any fun k => k.number == s.given

/-- The tokens that can be given out; those so far come last first. The first argument bounds the
number of steps. -/
def giveOut : Nat → List Token → Progress → List Token
  | 0, done, _ => done.reverse
  | fuel + 1, done, s =>
    match if s.held.isEmpty then some s else s.dropStale with
    | none => done.reverse
    | some s =>
      if s.isWaiting then
        match s.takeNext with
        | some s => giveOut fuel done s
        | none => done.reverse
      else
        match s.held with
        | t :: held =>
          if t = .textEnd then (t :: done).reverse
          else giveOut fuel (t :: done) { s with held, given := s.given + 1 }
        | [] => done.reverse

end Progress

/-- The tokens of a text, up to where it cannot be read on. -/
def tokens (text : String) : List Token :=
  let r := readable [] [] stretchSize text.toList
  let (rest, stop) := glyphs r.1
  Progress.giveOut (16 * (rest.length + 1)) [] { rest, stop, whole := r.2 }

end SchemaTransfer.Document.Yaml
