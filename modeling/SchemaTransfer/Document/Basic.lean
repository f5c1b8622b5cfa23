import SchemaTransfer.Document.Number

/-!
# Documents

A document is a tree of scalars, lists and maps as it was read, in the order of the text. Where
the text breaks off or is malformed the tree is cut: a cut list or map holds what was read before.
So a fault in what was read is found before the fault that cut the text, as in reading aloud.

A node may carry a tag, which names its kind, and it may be an anchor, which an alias elsewhere
stands for.
-/

namespace SchemaTransfer

namespace Document

/-- The formats of documents. -/
inductive Format where
  | json
  | yaml
  deriving DecidableEq

/-- The name of a kind of nodes. A code in it may stand for no character. -/
structure Tag where
  chars : List (Option Char)
  deriving DecidableEq

namespace Tag

/-- The tag of a text. -/
def ofString (text : String) : Tag := ⟨text.toList.map some⟩

/-- The text of a tag. -/
def text? (t : Tag) : Option String := (t.chars.mapM id).map String.ofList

/-- One tag after another. -/
def append (t u : Tag) : Tag := ⟨t.chars ++ u.chars⟩

/-- Whether a tag is that of one document alone. -/
def isLocal (t : Tag) : Bool := t.chars.head? = some (some '!')

/-- The name of a tag of one document alone; the mark of such tags stands for itself. -/
def localName? (t : Tag) : Option String :=
  match t.chars with
  | [some '!'] => some "!"
  | some '!' :: rest => text? ⟨rest⟩
  | _ => none

end Tag

/-- A value without parts. -/
inductive Scalar where
  | null
  | flag (value : Bool)
  | number (text : NumberText)
  | text (value : String)
  /-- A text that stands line by line as it is. -/
  | verbatim (value : String)
  /-- A text whose escapes stand for no characters. -/
  | brokenText
  /-- A word whose meaning depends on what is asked for. -/
  | word (value : String)
  deriving DecidableEq

/-- The text that a scalar stands for where a text is asked for. -/
def Scalar.text? : Scalar → Option String
  | .text s => some s
  | .verbatim s => some s
  | .word s => some s
  | _ => none

/-- A part of a document. -/
inductive Node where
  | scalar (value : Scalar)
  | list (items : List Node) (closed : Bool)
  | map (entries : List (Node × Node)) (closed : Bool)
  | tagged (tag : Tag) (node : Node)
  /-- A node that aliases of a number stand for. -/
  | anchored (anchor : Nat) (node : Node)
  | alias (anchor : Nat)
  /-- Nothing could be read. -/
  | cut

mutual

/-- Whether nothing is cut. -/
def Node.isWhole : Node → Bool
  | .scalar _ => true
  | .list items closed => closed && itemsWhole items
  | .map entries closed => closed && entriesWhole entries
  | .tagged _ n => n.isWhole
  | .anchored _ n => n.isWhole
  | .alias _ => true
  | .cut => false

/-- Whether nothing is cut in any of the items. -/
def itemsWhole : List Node → Bool
  | [] => true
  | n :: rest => n.isWhole && itemsWhole rest

/-- Whether nothing is cut in any of the entries. -/
def entriesWhole : List (Node × Node) → Bool
  | [] => true
  | (key, value) :: rest => key.isWhole && value.isWhole && entriesWhole rest

end

mutual

/-- The anchored nodes with the numbers of their anchors, in the order of the text. -/
def Node.anchors : Node → List (Nat × Node)
  | .scalar _ => []
  | .list items _ => anchorsOfItems items
  | .map entries _ => anchorsOfEntries entries
  | .tagged _ n => n.anchors
  | .anchored i n => (i, n) :: n.anchors
  | .alias _ => []
  | .cut => []

/-- The anchored nodes among the items. -/
def anchorsOfItems : List Node → List (Nat × Node)
  | [] => []
  | n :: rest => n.anchors ++ anchorsOfItems rest

/-- The anchored nodes among the entries. -/
def anchorsOfEntries : List (Node × Node) → List (Nat × Node)
  | [] => []
  | (key, value) :: rest => key.anchors ++ (value.anchors ++ anchorsOfEntries rest)

end

/-- A node without what names it, and its tag. -/
def Node.bare : Node → Option Tag × Node
  | .tagged tag n => (some tag, n.bare.2)
  | .anchored _ n => n.bare
  | n => (none, n)

/-- A node with a tag, if it has one. -/
def Node.withTag (tag : Option Tag) (n : Node) : Node :=
  match tag with
  | some tag => .tagged tag n
  | none => n

/-- A node with an anchor, if it has one. -/
def Node.withAnchor (anchor : Option Nat) (n : Node) : Node :=
  match anchor with
  | some i => .anchored i n
  | none => n

end Document

/-- A document: its root, and whether the text after the root is as it has to be. -/
structure Document where
  root : Document.Node
  ended : Bool

end SchemaTransfer
