import RootFold.Yaml.TokenStream

/-!
# `RootFold.Yaml.Node` — from tokens to a tree

A document is a tree of scalars, sequences and mappings. An alias stays an alias; the numbered anchors are kept
beside the tree. When the tokens break off or do not fit, the tree ends in `unread` at that place, and everything
before it stands.

An anchor gets as its number how many different names were in use when it was met. A name that is used again
takes a new number, and two anchors may then share one; the later of them counts.

## Contents
- **Trees.** `Scalar`, `Node`, `Node.eventCount`, `Node.isRead`.
- **Steps.** `Building` and the monad `BuildM`.
- **Nodes.** `readNode` and the collections, by recursion on a bound for the nesting.
- **Documents.** `Document`, `Document.ofText`: the first document of a text.
-/

namespace RootFold.Yaml

/-- **A scalar:** its text, how it was spelled, and its tag. -/
structure Scalar where
  text : String
  style : ScalarStyle := .plain
  tag : Option Tag := none
  deriving DecidableEq, Repr, Inhabited

/-- **A tree.** -/
inductive Node where
  | scalar (content : Scalar)
  | sequence (tag : Option Tag) (items : List Node)
  | mapping (tag : Option Tag) (entries : List (Node × Node))
  /-- What the anchor of a number stands for. -/
  | alias (number : Nat)
  /-- From here on nothing could be read. -/
  | unread
  deriving Repr, Inhabited

namespace Node

/-- The scalar that stands where nothing is written. -/
def empty : Node := scalar ⟨"", .plain, none⟩

mutual

/-- The number of leaves, and of beginnings and ends of collections. -/
def eventCount : Node → Nat
  | sequence _ items => 2 + eventCounts items
  | mapping _ entries => 2 + entryEventCounts entries
  | unread => 0
  | _ => 1

/-- The same for the items of a sequence. -/
def eventCounts : List Node → Nat
  | [] => 0
  | item :: rest => eventCount item + eventCounts rest

/-- The same for the entries of a mapping. -/
def entryEventCounts : List (Node × Node) → Nat
  | [] => 0
  | (key, value) :: rest => eventCount key + eventCount value + entryEventCounts rest

end

mutual

/-- Whether all of a tree could be read. -/
def isRead : Node → Bool
  | sequence _ items => areRead items
  | mapping _ entries => entriesAreRead entries
  | unread => false
  | _ => true

/-- The same for the items of a sequence. -/
def areRead : List Node → Bool
  | [] => true
  | item :: rest => isRead item && areRead rest

/-- The same for the entries of a mapping. -/
def entriesAreRead : List (Node × Node) → Bool
  | [] => true
  | (key, value) :: rest => isRead key && isRead value && entriesAreRead rest

end

end Node

/-! ## Steps -/

/-- **An anchor:** its number, its place among all anchors, and its tree. -/
structure Anchor where
  number : Nat
  serial : Nat
  node : Node
  deriving Repr

/-- **Where building stands.** -/
structure Building where
  /-- The tokens that are left. -/
  tokens : List Token
  /-- The handles of tags and what they stand for. -/
  handles : List (String × Tag)
  /-- The names of anchors in use and their numbers. -/
  names : List (String × Nat)
  /-- How many anchors were met. -/
  anchorCount : Nat
  anchors : List Anchor

/-- **A part of building.** -/
abbrev BuildM := StateM Building

namespace BuildM

/-- The next token, if there is one. -/
def peek : BuildM (Option Token) := do return (← get).tokens.head?

/-- Take the next token away. -/
def skip : BuildM Unit := modify fun s => { s with tokens := s.tokens.tail }

/-- The next token after the one that is there. -/
def skipAndPeek : BuildM (Option Token) := do
  skip
  peek

/-- Nothing more can be read. -/
def stop : BuildM Node := do
  modify fun s => { s with tokens := [] }
  return .unread

/-- Give a number to the anchor of a name. -/
def numberFor (name : Option String) : BuildM (Option (Nat × Nat)) := do
  match name with
  | none => return none
  | some name =>
    let s ← get
    let number := s.names.length
    set { s with
      names := (name, number) :: s.names.filter (·.1 != name)
      anchorCount := s.anchorCount + 1 }
    return some (number, s.anchorCount)

/-- Keep the tree of an anchor. -/
def keep (number : Option (Nat × Nat)) (node : Node) : BuildM Node := do
  match number with
  | none => return node
  | some (number, serial) =>
    modify fun s => { s with anchors := ⟨number, serial, node⟩ :: s.anchors }
    return node

/-- The tag that a handle and a suffix make, if the handle has a meaning. -/
def resolveTag (handle : String) (suffix : Tag) : BuildM (Option Tag) := do
  if handle.isEmpty then return some suffix
  else return ((← get).handles.find? (·.1 == handle)).map (·.2.append suffix)

/-! ## Properties -/

/-- The anchor and the tag of a node, or nothing if the tag has no meaning. -/
structure Properties where
  anchor : Option String := none
  tag : Option Tag := none

/-- A tag in front, added to the properties. -/
def readTag (p : Properties) : BuildM (Option Properties) := do
  match ← peek with
  | some (.tag handle suffix) =>
    skip
    return (← resolveTag handle suffix).map fun tag => { p with tag := some tag }
  | _ => return some p

/-- An anchor in front, added to the properties. -/
def readAnchor (p : Properties) : BuildM Properties := do
  match ← peek with
  | some (.anchor name) =>
    skip
    return { p with anchor := some name }
  | _ => return p

/-- An anchor and a tag, in either order. The tag is looked up once both are read. -/
def readProperties : BuildM (Option Properties) := do
  match ← peek with
  | some (.anchor _) => readTag (← readAnchor {})
  | some (.tag ..) => (← readTag {}).mapM readAnchor
  | _ => return some {}

/-! ## Nodes -/

/-- **Where a node stands:** between brackets, as an entry, or as a key or value, where a sequence needs no
    indentation. -/
inductive Setting where
  | flow
  | block
  | indentless
  deriving DecidableEq, Repr

/-- A node, unless one of the given tokens comes first; then nothing is written there. -/
def orEmpty (enders : List Token) (read : BuildM Node) : BuildM Node := do
  match ← peek with
  | none => return .unread
  | some token => if enders.contains token then return .empty else read

/-- The value after a key, if there is one. -/
def readValue (enders : List Token) (read : BuildM Node) : BuildM Node := do
  match ← peek with
  | none => return .unread
  | some .value =>
    skip
    orEmpty enders read
  | some _ => return .empty

mutual

/-- **A node.** `fuel` bounds the nesting and the length of collections together; four times the number of tokens is
    enough. -/
def readNode : (fuel : Nat) → Setting → BuildM Node
  | 0, _ => stop
  | fuel + 1, setting => do
    match ← peek with
    | some (.alias name) =>
      match (← get).names.find? (·.1 == name) with
      | some (_, number) =>
        skip
        return .alias number
      | none => stop
    | _ =>
      match ← readProperties with
      | none => stop
      | some p => readContent fuel setting p

/-- The content of a node, after its properties. -/
def readContent : (fuel : Nat) → Setting → Properties → BuildM Node
  | 0, _, _ => stop
  | fuel + 1, setting, p => do
    match ← peek with
    | some (.scalar text style) =>
      skip
      keep (← numberFor p.anchor) (.scalar ⟨text, style, p.tag⟩)
    | some .flowSequenceStart =>
      let number ← numberFor p.anchor
      skip
      keep number (.sequence p.tag (← readFlowItems fuel true))
    | some .flowMappingStart =>
      let number ← numberFor p.anchor
      skip
      keep number (.mapping p.tag (← readFlowEntries fuel true))
    | some token =>
      if setting == .indentless && token == .blockEntry then
        let number ← numberFor p.anchor
        keep number (.sequence p.tag (← readIndentlessItems fuel))
      else if setting != .flow && token == .blockSequenceStart then
        let number ← numberFor p.anchor
        skip
        keep number (.sequence p.tag (← readBlockItems fuel))
      else if setting != .flow && token == .blockMappingStart then
        let number ← numberFor p.anchor
        skip
        keep number (.mapping p.tag (← readBlockEntries fuel))
      else if p.anchor.isSome || p.tag.isSome then
        keep (← numberFor p.anchor) (.scalar ⟨"", .plain, p.tag⟩)
      else stop
    | none => stop

/-- The items of an indented sequence. -/
def readBlockItems : (fuel : Nat) → BuildM (List Node)
  | 0 => return [← stop]
  | fuel + 1 => do
    match ← peek with
    | some .blockEntry =>
      skip
      let item ← orEmpty [.blockEntry, .blockEnd] (readNode fuel .block)
      return item :: (← readBlockItems fuel)
    | some .blockEnd =>
      skip
      return []
    | _ => return [← stop]

/-- The items of a sequence without indentation of its own. -/
def readIndentlessItems : (fuel : Nat) → BuildM (List Node)
  | 0 => return [← stop]
  | fuel + 1 => do
    match ← peek with
    | some .blockEntry =>
      skip
      let item ← orEmpty [.blockEntry, .key, .value, .blockEnd] (readNode fuel .block)
      return item :: (← readIndentlessItems fuel)
    | some _ => return []
    | none => return [← stop]

/-- The entries of an indented mapping. -/
def readBlockEntries : (fuel : Nat) → BuildM (List (Node × Node))
  | 0 => return [(← stop, .unread)]
  | fuel + 1 => do
    match ← peek with
    | some .key =>
      skip
      let key ← orEmpty [.key, .value, .blockEnd] (readNode fuel .indentless)
      let value ← readValue [.key, .value, .blockEnd] (readNode fuel .indentless)
      return (key, value) :: (← readBlockEntries fuel)
    | some .blockEnd =>
      skip
      return []
    | _ => return [(← stop, .unread)]

/-- The items of a sequence in brackets. A key mark makes a mapping of one entry. -/
def readFlowItems : (fuel : Nat) → (first : Bool) → BuildM (List Node)
  | 0, _ => return [← stop]
  | fuel + 1, first => do
    match ← peek with
    | none => return [← stop]
    | some .flowSequenceEnd =>
      skip
      return []
    | some token =>
      if !first && token != .flowEntry then return [← stop]
      else
        match ← (if first then peek else skipAndPeek) with
        | none => return [← stop]
        | some .flowSequenceEnd =>
          skip
          return []
        | some .key =>
          skip
          let item ← readFlowPair fuel
          return item :: (← readFlowItems fuel false)
        | some _ =>
          let item ← readNode fuel .flow
          return item :: (← readFlowItems fuel false)

/-- A mapping of one entry, after its key mark. A mark that stands in place of the key is passed over. -/
def readFlowPair : (fuel : Nat) → BuildM Node
  | 0 => stop
  | fuel + 1 => do
    match ← peek with
    | none => return .mapping none [(.unread, .unread)]
    | some token =>
      let key ←
        if [Token.value, .flowEntry, .flowSequenceEnd].contains token then do
          skip
          pure Node.empty
        else readNode fuel .flow
      let value ← readValue [.flowEntry, .flowSequenceEnd] (readNode fuel .flow)
      match ← peek with
      | none => return .mapping none [(key, value), (.unread, .unread)]
      | some _ => return .mapping none [(key, value)]

/-- The entries of a mapping in braces. A key without a key mark has no value. -/
def readFlowEntries : (fuel : Nat) → (first : Bool) → BuildM (List (Node × Node))
  | 0, _ => return [(← stop, .unread)]
  | fuel + 1, first => do
    match ← peek with
    | none => return [(← stop, .unread)]
    | some .flowMappingEnd =>
      skip
      return []
    | some token =>
      if !first && token != .flowEntry then return [(← stop, .unread)]
      else
        match ← (if first then peek else skipAndPeek) with
        | none => return [(← stop, .unread)]
        | some .flowMappingEnd =>
          skip
          return []
        | some .key =>
          skip
          let key ← orEmpty [.value, .flowEntry, .flowMappingEnd] (readNode fuel .flow)
          let value ← readValue [.flowEntry, .flowMappingEnd] (readNode fuel .flow)
          return (key, value) :: (← readFlowEntries fuel false)
        | some _ =>
          let key ← readNode fuel .flow
          let value := if (← peek).isSome then .empty else .unread
          return (key, value) :: (← readFlowEntries fuel false)

end

/-! ## Documents -/

/-- The handles that every document knows. -/
def standardHandles : List (String × Tag) := [("!", .lone), ("!!", .coreNames)]

/-- The directives in front of a document: the version must be known and given once, a handle have one meaning.
    The handles, and the tokens after the directives. -/
def readDirectives (versionSeen : Bool) (handles : List (String × Tag)) :
    List Token → Option (List (String × Tag) × List Token)
  | .versionDirective major minor :: rest =>
    if versionSeen || major != 1 || (minor != 1 && minor != 2) then none else readDirectives true handles rest
  | .tagDirective handle meaning :: rest =>
    if handles.any (·.1 == handle) then none else readDirectives versionSeen (handles ++ [(handle, meaning)]) rest
  | tokens => some (handles, tokens)

/-- Whether a token begins a document, or ends all of them. -/
def beginsDocument : Token → Bool
  | .versionDirective .. => true
  | .tagDirective .. => true
  | .documentStart => true
  | .streamEnd => true
  | _ => false

/-- The content of a document after its opening mark, which may be missing. -/
def readMarkedContent (fuel : Nat) : BuildM Node := do
  match ← peek with
  | none => return .unread
  | some token => if beginsDocument token || token == .documentEnd then return .empty else readNode fuel .block

end BuildM

/-- **A document:** its tree, unless the text has none, its anchors, and whether the text ends well after it. -/
structure Document where
  root : Option Node
  anchors : List Anchor
  isWhole : Bool
  deriving Repr

namespace Document

/-- What an anchor's number stands for: the anchor of that number that came last. -/
def anchored? (d : Document) (number : Nat) : Option Node :=
  let candidates := d.anchors.filter (·.number == number)
  (candidates.find? fun a => candidates.all (·.serial ≤ a.serial)).map (·.node)

/-- How often aliases may be followed before the reader gives up. -/
def aliasLimit (d : Document) : Nat := 100 * (d.root.elim 1 Node.eventCount)

/-- A document of which nothing could be read. -/
def unread : Document := ⟨some .unread, [], false⟩

/-- Whether nothing comes after a document but marks of its end. -/
def endsStream (tokens : List Token) : Bool := tokens.dropWhile (· == .documentEnd) == [.streamEnd]

/-- The document that begins with the given tokens. -/
def ofTokens (tokens handleTokens : List Token) (handles : List (String × Tag)) (read : Nat → BuildM Node) :
    Document :=
  let (root, s) := read (4 * tokens.length + 4) ⟨handleTokens, handles ++ BuildM.standardHandles, [], 0, []⟩
  ⟨some root, s.anchors, endsStream s.tokens⟩

/-- **The first document of a text.** -/
def ofText (text : String) : Document :=
  match (TokenStream.ofText text).tokens with
  | .streamStart :: tokens =>
    match tokens with
    | [] => unread
    | [.streamEnd] => ⟨none, [], true⟩
    | token :: _ =>
      if BuildM.beginsDocument token then
        match BuildM.readDirectives false [] tokens with
        | some (handles, .documentStart :: rest) => ofTokens tokens rest handles BuildM.readMarkedContent
        | _ => unread
      else ofTokens tokens tokens [] (BuildM.readNode · .block)
  | _ => unread

end Document

end RootFold.Yaml
