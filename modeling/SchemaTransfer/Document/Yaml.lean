import SchemaTransfer.Document.Yaml.Token

/-!
# Reading YAML

Nodes are made of tokens. Reading never fails: what cannot be read is a cut in the tree, and
everything after it is left unread. Lists and maps of lines and those between brackets have signs of
their own; a node of either may have an anchor and a tag in front of it.
-/

namespace SchemaTransfer.Document.Yaml

/-- A node that is not written. -/
def emptyNode : Node := .scalar (.word "")

/-! ## Handles of tags -/

/-- What the handles of a document stand for. -/
abbrev Handles := List (String × Tag)

/-- The handles that need no directive. -/
def standardHandles : Handles :=
  [("!", Tag.ofString "!"), ("!!", Tag.ofString "tag:yaml.org,2002:")]

/-- The tag that is written, if its handle stands for something. -/
def TagText.resolve? (t : TagText) (handles : Handles) : Option Tag :=
  if t.handle = "" then some t.rest
  else (handles.lookup t.handle).map fun tag => tag.append t.rest

/-- The handles of directives, of which one may give the version and each other a handle of its own.
The first argument tells whether the version was given. -/
def handlesOf? : Bool → Handles → List Directive → Option Handles
  | _, handles, [] => some (handles ++ standardHandles)
  | versioned, handles, .version major minor :: rest =>
    if versioned || major != 1 || (minor != 1 && minor != 2) then none
    else handlesOf? true handles rest
  | versioned, handles, .handle name tag :: rest =>
    if handles.any fun h => h.1 == name then none
    else handlesOf? versioned ((name, tag) :: handles) rest

/-! ## What was read -/

/-- What is left of a document: its tokens, and the anchors so far with their numbers. -/
structure Remaining where
  tokens : List Token
  anchors : List (String × Nat) := []

namespace Remaining

/-- What is left after the first token. -/
def next (r : Remaining) : Remaining := { r with tokens := r.tokens.drop 1 }

/-- The number of an anchor, new or not: how many names there were before. -/
def number (r : Remaining) (anchor : Option String) : Option Nat :=
  anchor.map fun _ => r.anchors.length

/-- What is left after an anchor. -/
def name (r : Remaining) (anchor : Option String) : Remaining :=
  match anchor with
  | none => r
  | some name =>
    { r with anchors := (name, r.anchors.length) :: r.anchors.filter fun a => a.1 != name }

end Remaining

/-- What was read, and what is left; nothing is left where the text was cut. -/
abbrev Read (α : Type) := α × Option Remaining

/-- A list of the items that were read; it is closed if something is left. -/
def listOf (r : Read (List Node)) : Read Node := (.list r.1 r.2.isSome, r.2)

/-- A map of the entries that were read; it is closed if something is left. -/
def mapOf (r : Read (List (Node × Node))) : Read Node := (.map r.1 r.2.isSome, r.2)

/-! ## Properties of a node -/

/-- What stands in front of a node. -/
structure Properties where
  anchor : Option String := none
  tag : Option TagText := none

/-- Reads what stands in front of a node: an anchor and a tag in either order. -/
def readProperties : List Token → Properties × List Token
  | .anchor name :: .tag tag :: rest => (⟨some name, some tag⟩, rest)
  | .anchor name :: rest => (⟨some name, none⟩, rest)
  | .tag tag :: .anchor name :: rest => (⟨some name, some tag⟩, rest)
  | .tag tag :: rest => (⟨none, some tag⟩, rest)
  | rest => ({}, rest)

/-- The tag of a node, where an undefined handle is a fault. -/
def Properties.tag? (p : Properties) (handles : Handles) : Option (Option Tag) :=
  match p.tag with
  | none => some none
  | some tag => (tag.resolve? handles).map some

/-- The tag that a scalar keeps: one that is its mark alone is none. -/
def scalarTag (tag : Option Tag) : Option Tag := tag.filter (· != Tag.ofString "!")

/-! ## What ends a part -/

/-- Whether a node of a list of lines is missing before a token. -/
def endsItem (t : Token) : Bool := t = .item || t = .blockEnd

/-- Whether a node of a map of lines is missing before a token. -/
def endsEntry (t : Token) : Bool := t = .key || t = .value || t = .blockEnd

/-- Whether an item of a list at the column of the map around it is missing before a token. -/
def endsInnerItem (t : Token) : Bool := t = .item || endsEntry t

/-- Whether a key between the given brackets is missing before a token. -/
def endsFlowKey (close t : Token) : Bool := t = .value || t = .comma || t = close

/-- Whether a value between the given brackets is missing before a token. -/
def endsFlowValue (close t : Token) : Bool := t = .comma || t = close

/-! ## Nodes -/

mutual

/-- Reads a node. Where lines and columns show the structure it may be a list or map of lines, and
within a map also a list at the column of the map. The first argument bounds the depth of the
recursion. -/
def readNode : Nat → Handles → (inBlock inMap : Bool) → Remaining → Read Node
  | 0, _, _, _, _ => (.cut, none)
  | fuel + 1, handles, inBlock, inMap, r =>
    match r.tokens with
    | .alias name :: _ =>
      match r.anchors.lookup name with
      | some i => (.alias i, some r.next)
      | none => (.cut, none)
    | tokens =>
      let (properties, rest) := readProperties tokens
      let inner := { r with tokens := rest }.name properties.anchor
      match properties.tag? handles with
      | none => (.cut, none)
      | some tag =>
        let named (tag : Option Tag) (n : Read Node) : Read Node :=
          ((n.1.withTag tag).withAnchor (r.number properties.anchor), n.2)
        match rest with
        | .scalar s :: _ => named (scalarTag tag) (.scalar s, some inner.next)
        | .openBracket :: _ => named tag (listOf (readFlowItems fuel handles true inner.next))
        | .openBrace :: _ => named tag (mapOf (readFlowEntries fuel handles true inner.next))
        | t :: _ =>
          if inMap && t = .item then named tag (listOf (readInnerItems fuel handles inner))
          else if inBlock && t = .listStart then
            named tag (listOf (readItems fuel handles inner.next))
          else if inBlock && t = .mapStart then
            named tag (mapOf (readEntries fuel handles inner.next))
          else if properties.anchor.isSome || properties.tag.isSome then
            named tag (emptyNode, some inner)
          else (.cut, none)
        | [] => (.cut, none)

/-- Reads a node unless it is missing before a token. -/
def readUnless : Nat → Handles → (inBlock inMap : Bool) → (missing : Token → Bool) → Remaining →
    Read Node
  | 0, _, _, _, _, _ => (.cut, none)
  | fuel + 1, handles, inBlock, inMap, missing, r =>
    match r.tokens with
    | [] => (.cut, none)
    | t :: _ => if missing t then (emptyNode, some r) else readNode fuel handles inBlock inMap r

/-- Reads the items of a list of lines up to its end. -/
def readItems : Nat → Handles → Remaining → Read (List Node)
  | 0, _, _ => ([], none)
  | fuel + 1, handles, r =>
    match r.tokens with
    | .item :: _ =>
      match readUnless fuel handles true false endsItem r.next with
      | (n, none) => ([n], none)
      | (n, some r) =>
        let more := readItems fuel handles r
        (n :: more.1, more.2)
    | .blockEnd :: _ => ([], some r.next)
    | _ => ([], none)

/-- Reads the items of a list at the column of the map around it. -/
def readInnerItems : Nat → Handles → Remaining → Read (List Node)
  | 0, _, _ => ([], none)
  | fuel + 1, handles, r =>
    match r.tokens with
    | .item :: _ =>
      match readUnless fuel handles true false endsInnerItem r.next with
      | (n, none) => ([n], none)
      | (n, some r) =>
        let more := readInnerItems fuel handles r
        (n :: more.1, more.2)
    | [] => ([], none)
    | _ => ([], some r)

/-- Reads the value of an entry of a map of lines, if it has one. -/
def readValue : Nat → Handles → Remaining → Read Node
  | 0, _, _ => (.cut, none)
  | fuel + 1, handles, r =>
    match r.tokens with
    | .value :: _ => readUnless fuel handles true true endsEntry r.next
    | [] => (.cut, none)
    | _ => (emptyNode, some r)

/-- Reads the entries of a map of lines up to its end. -/
def readEntries : Nat → Handles → Remaining → Read (List (Node × Node))
  | 0, _, _ => ([], none)
  | fuel + 1, handles, r =>
    match r.tokens with
    | .key :: _ =>
      match readUnless fuel handles true true endsEntry r.next with
      | (key, none) => ([(key, .cut)], none)
      | (key, some r) =>
        match readValue fuel handles r with
        | (value, none) => ([(key, value)], none)
        | (value, some r) =>
          let more := readEntries fuel handles r
          ((key, value) :: more.1, more.2)
    | .blockEnd :: _ => ([], some r.next)
    | _ => ([], none)

/-- Reads the value of an entry between the given brackets, if it has one. -/
def readFlowValue : Nat → Handles → (close : Token) → Remaining → Read Node
  | 0, _, _, _ => (.cut, none)
  | fuel + 1, handles, close, r =>
    match r.tokens with
    | .value :: _ => readUnless fuel handles false false (endsFlowValue close) r.next
    | [] => (.cut, none)
    | _ => (emptyNode, some r)

/-- Reads an item that is an entry, after the sign of its key. The token before which its key is
missing counts as the key. -/
def readFlowPair : Nat → Handles → Remaining → Read (List (Node × Node))
  | 0, _, _ => ([], none)
  | fuel + 1, handles, r =>
    let key :=
      match r.tokens with
      | [] => (.cut, none)
      | t :: _ =>
        if endsFlowKey .closeBracket t then (emptyNode, some r.next)
        else readNode fuel handles false false r
    match key with
    | (key, none) => ([(key, .cut)], none)
    | (key, some r) =>
      match readFlowValue fuel handles .closeBracket r with
      | (value, none) => ([(key, value)], none)
      | (value, some r) => ([(key, value)], if r.tokens.isEmpty then none else some r)

/-- Reads the items of a list between brackets up to its end. -/
def readFlowItems : Nat → Handles → (first : Bool) → Remaining → Read (List Node)
  | 0, _, _, _ => ([], none)
  | fuel + 1, handles, first, r =>
    match r.tokens with
    | .closeBracket :: _ => ([], some r.next)
    | t :: _ =>
      if !first && t != .comma then ([], none)
      else
        let r := if first then r else r.next
        match r.tokens with
        | .closeBracket :: _ => ([], some r.next)
        | t :: _ =>
          let item :=
            if t = .key then mapOf (readFlowPair fuel handles r.next)
            else readNode fuel handles false false r
          match item with
          | (n, none) => ([n], none)
          | (n, some r) =>
            let more := readFlowItems fuel handles false r
            (n :: more.1, more.2)
        | [] => ([], none)
    | [] => ([], none)

/-- Reads the entries of a map between brackets up to its end. A node without the sign of a key is a
key without a value. -/
def readFlowEntries : Nat → Handles → (first : Bool) → Remaining → Read (List (Node × Node))
  | 0, _, _, _ => ([], none)
  | fuel + 1, handles, first, r =>
    match r.tokens with
    | .closeBrace :: _ => ([], some r.next)
    | t :: _ =>
      if !first && t != .comma then ([], none)
      else
        let r := if first then r else r.next
        match r.tokens with
        | .closeBrace :: _ => ([], some r.next)
        | t :: _ =>
          let key :=
            if t = .key then
              readUnless fuel handles false false (endsFlowKey .closeBrace) r.next
            else readNode fuel handles false false r
          match key with
          | (key, none) => ([(key, .cut)], none)
          | (key, some r) =>
            let value :=
              if t = .key then readFlowValue fuel handles .closeBrace r
              else if r.tokens.isEmpty then (.cut, none)
              else (emptyNode, some r)
            match value with
            | (value, none) => ([(key, value)], none)
            | (value, some r) =>
              let more := readFlowEntries fuel handles false r
              ((key, value) :: more.1, more.2)
        | [] => ([], none)
    | [] => ([], none)

end

/-! ## Documents -/

/-- The directives at the start. -/
def leadingDirectives : List Token → List Directive × List Token
  | .directive d :: rest =>
    let r := leadingDirectives rest
    (d :: r.1, r.2)
  | rest => ([], rest)

/-- Whether a document has no content before a token. -/
def endsDocument : Token → Bool
  | .directive _ => true
  | .documentStart => true
  | .documentEnd => true
  | .textEnd => true
  | _ => false

/-- Reads the root of a document. A document without a start has neither directives nor an empty
root. -/
def readRoot (tokens : List Token) : Read Node :=
  let fuel := 4 * tokens.length + 4
  match leadingDirectives tokens with
  | (directives, .documentStart :: rest) =>
    match handlesOf? false [] directives with
    | none => (.cut, none)
    | some handles => readUnless fuel handles true false endsDocument { tokens := rest }
  | ([], rest) => readNode fuel standardHandles true false { tokens := rest }
  | _ => (.cut, none)

/-- Whether nothing but ends of the document are left. -/
def isEnded : List Token → Bool
  | .documentEnd :: rest => isEnded rest
  | [.textEnd] => true
  | _ => false

/-- The document of tokens. A text without any is a document with a node that is not written. -/
def ofTokens (tokens : List Token) : Document :=
  match tokens with
  | [.textEnd] => ⟨emptyNode, true⟩
  | _ =>
    match readRoot tokens with
    | (n, none) => ⟨n, false⟩
    | (n, some r) => ⟨n, isEnded r.tokens⟩

/-- Reads a document. -/
def read (text : String) : Document := ofTokens (tokens text)

end SchemaTransfer.Document.Yaml
