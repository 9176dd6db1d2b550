import RootFold.Yaml.Resolution
import RootFold.Document.Format

/-!
# `RootFold.Yaml.Format` — reading values from YAML

Any scalar is a text where a text is wanted; truth values and nothing must be spelled plainly. A word out of
several may also be given as a tag. Where a list or a record is wanted, nothing written stands for an empty one.
An alias is read as what its anchor stands for. Faults have the place where they were met: the keys and indices
that lead there.

## Contents
- **Places.** `Place`, `Position`.
- **The reader.** `ReadM`, which knows the document and counts the aliases it has followed; `resolve`.
- **Mismatches.** `mismatch` tells what stands where something else was expected.
- **Positions.** `readText`, `readFlag`, `readChoice`, `readOptional`, `readList`, `readTable`, `readRecord`.
- **Documents.** `readDocument`.
-/

namespace RootFold.Yaml

-- `Document` alone is the tree; problems and formats are those of all documents.
open RootFold.Document (Found Problem Fault Field Record Format)

/-! ## Places -/

/-- **The way to a node:** keys and indices, written one after the other. -/
structure Place where
  text : String := ""
  deriving Repr, Inhabited

namespace Place

/-- The place of an item of a sequence. -/
def item (p : Place) (index : Nat) : Place := ⟨s!"{p.text}[{index}]"⟩

/-- The place of the value of a key. -/
def value (p : Place) (key : String) : Place := ⟨if p.text.isEmpty then key else s!"{p.text}.{key}"⟩

/-- The place of the value of a key that is no scalar. -/
def valueOfOther (p : Place) : Place := p.value "?"

end Place

/-- **A node and its place.** -/
structure Position where
  node : Node
  place : Place := {}

/-! ## The reader -/

/-- **A part of reading:** it knows the document, counts the aliases followed so far, and may fail. -/
abbrev ReadM := ReaderT Document (StateT Nat (Except Fault))

namespace ReadM

variable {α : Type}

/-- Stop with a problem whose place is not known yet. -/
def fail (problem : Problem) : ReadM α := throw (.ofProblem problem)

/-- Read at a place: faults without one get it. -/
def within (place : Place) (read : ReadM α) : ReadM α := tryCatch read fun fault => throw (fault.within place.text)

end ReadM

/-- **What a node stands for:** that of its anchor, if it is an alias. -/
def resolve : Node → ReadM Node
  | .alias number => do
    let document ← read
    modify (· + 1)
    if document.aliasLimit < (← get) then ReadM.fail .unreadable
    else return (document.anchored? number).getD .unread
  | node => return node

/-! ## Mismatches -/

/-- An integer, told with its width if it is beyond 64 bits. -/
def foundInteger (n : Int) : Found :=
  if n < -(Nat.pow 2 63 : Int) then .wideInteger n "i128"
  else if n < Nat.pow 2 64 then .integer n
  else .wideInteger n "u128"

/-- How a meaning is told. -/
def Meaning.found (text : String) : Meaning → Found
  | nothing => .kind "unit value"
  | boolean b => .boolean b
  | integer n => foundInteger n
  | float x => .decimal x.message
  | Meaning.text => .text text

/-- **The problem with a node** that stands where something else was expected. A tag that asks for something else
    in vain is the problem first. -/
def mismatch (expected : String) : Node → Problem
  | .scalar s =>
    match s.meaning with
    | .ok meaning => .wrongType (meaning.found s.text) expected
    | .error wanted => .wrongValue (.text s.text) wanted
  | .sequence .. => .wrongType (.kind "sequence") expected
  | .mapping .. => .wrongType (.kind "map") expected
  | _ => .unreadable

/-- Fail because of a node. -/
def refuse {α : Type} (expected : String) (node : Node) : ReadM α := ReadM.fail (mismatch expected node)

/-- Whether nothing is written. -/
def isBlankScalar (s : Scalar) : Bool := s.text.isEmpty && s.style == .plain

/-! ## Positions -/

/-- A text: any scalar. -/
def readText (expected : String) (p : Position) : ReadM String :=
  ReadM.within p.place do
    match ← resolve p.node with
    | .scalar s => return s.text
    | node => refuse expected node

/-- Whether a scalar may be read as what a tag of the core schema asks for. -/
def isSpelledPlainly (tag : Tag) (s : Scalar) : Bool := s.style == .plain || (s.style == .literal && s.tag == some tag)

/-- A truth value. -/
def readFlag (p : Position) : ReadM Bool :=
  ReadM.within p.place do
    let node ← resolve p.node
    match node with
    | .scalar s =>
      match if isSpelledPlainly Tag.bool s then truthValue? s.text else none with
      | some b => return b
      | none => refuse "a boolean" node
    | node => refuse "a boolean" node

/-- The value of a word. -/
def lookUpWord {α : Type} (words : List (String × α)) (word : String) : ReadM α :=
  match words.find? (·.1 == word) with
  | some (_, value) => return value
  | none => ReadM.fail (.unknownVariant word (words.map (·.1)))

/-- What may stand beside a tag that is a word: nothing. -/
def refuseContent (node : Node) : ReadM Unit :=
  match node with
  | .scalar s =>
    if s.style == .plain && (s.text.isEmpty || isNullWord s.text) then return ()
    else ReadM.fail (.wrongValue (.text s.text) "null")
  | node => refuse "unit" node

/-- The tag of a node. -/
def Node.tag? : Node → Option Tag
  | scalar s => s.tag
  | sequence tag _ => tag
  | mapping tag _ => tag
  | _ => none

/-- **One of several words,** as a scalar or as a tag. An unknown tag is a fault of the record around it. -/
def readChoice {α : Type} (words : List (String × α)) (p : Position) : ReadM α := do
  let node ← ReadM.within p.place (resolve p.node)
  match node.tag?.bind Tag.localName? with
  | some word =>
    let value ← match p.node with
      | .alias _ => ReadM.within p.place (lookUpWord words word)
      | _ => lookUpWord words word
    ReadM.within p.place (refuseContent node)
    return value
  | none =>
    ReadM.within p.place do
      match node with
      | .scalar s => lookUpWord words s.text
      | node => refuse "a YAML tag starting with '!'" node

/-- Whether a plain scalar stands for nothing; one whose tag says so must be spelled so. -/
def standsForNothing (s : Scalar) : ReadM Bool :=
  if s.style != .plain then return false
  else
    match s.tag with
    | none => return s.text.isEmpty || isNullWord s.text
    | some tag =>
      if tag != Tag.null then return false
      else if isNullWord s.text then return true
      else ReadM.fail (.wrongValue (.text s.text) "null")

/-- **A value or nothing.** -/
def readOptional {α : Type} (readValue : Position → ReadM α) (p : Position) : ReadM (Option α) := do
  let node ← resolve p.node
  let isNothing ← match node with
    | .scalar s => standsForNothing s
    | _ => pure false
  if isNothing then return none else return some (← readValue { p with node })

/-- The items of a sequence from an index on. -/
def readItems {α : Type} (readItem : Position → ReadM α) (place : Place) (index : Nat) : List Node → ReadM (List α)
  | [] => return []
  | node :: rest => do
    let value ← readItem ⟨node, place.item index⟩
    return value :: (← readItems readItem place (index + 1) rest)

/-- **The items of a sequence.** -/
def readList {α : Type} (readItem : Position → ReadM α) (p : Position) : ReadM (List α) :=
  ReadM.within p.place do
    let node ← resolve p.node
    match node with
    | .sequence _ items => readItems readItem p.place 0 items
    | .scalar s => if isBlankScalar s then return [] else refuse "a sequence" node
    | node => refuse "a sequence" node

/-- The place of the value of a key. -/
def placeOfValue (place : Place) : Node → Place
  | .scalar s => place.value s.text
  | _ => place.valueOfOther

/-- The entries of a mapping, or none if nothing is written. -/
def entriesOf (expected : String) (node : Node) : ReadM (List (Node × Node)) :=
  match node with
  | .mapping _ entries => return entries
  | .scalar s => if isBlankScalar s then return [] else refuse expected node
  | node => refuse expected node

/-- **The entries of a mapping from texts,** in order. -/
def readTable {α : Type} (expectedKey : String) (readValue : Position → ReadM α) (p : Position) :
    ReadM (List (String × α)) :=
  ReadM.within p.place do
    let entries ← entriesOf "a map" (← resolve p.node)
    entries.mapM fun (key, value) => do
      let name ← readText expectedKey ⟨key, p.place⟩
      return (name, ← readValue ⟨value, placeOfValue p.place key⟩)

variable {Draft α : Type}

/-- Read the entries of a mapping into a draft. -/
def readFields (r : Record Position ReadM Draft α) (place : Place) (seen : List String) (draft : Draft) :
    List (Node × Node) → ReadM Draft
  | [] => return draft
  | (key, value) :: rest => do
    let name ← readText "field identifier" ⟨key, place⟩
    match r.field? name with
    | some field =>
      if seen.contains name then ReadM.fail (.duplicateField name)
      else
        let draft ← field.read draft ⟨value, placeOfValue place key⟩
        readFields r place (name :: seen) draft rest
    | none =>
      if r.strict then ReadM.fail (.unknownField name r.names)
      else if value.isRead then readFields r place seen draft rest
      else ReadM.fail .unreadable

/-- **A record of named fields.** -/
def readRecord (r : Record Position ReadM Draft α) (p : Position) : ReadM α :=
  ReadM.within p.place do
    let entries ← entriesOf s!"struct {r.name}" (← resolve p.node)
    let draft ← readFields r p.place [] r.start entries
    match r.finish draft with
    | .ok value => return value
    | .error name => ReadM.fail (.missingField name)

instance : Format Position ReadM where
  text := readText
  flag := readFlag
  choice := readChoice
  optional := readOptional
  list := readList
  table := readTable
  record := readRecord

/-! ## Documents -/

/-- **A value from a text with one document.** A text without a document stands for nothing written. What comes
    after the document must be its end, but a fault in the value comes first. -/
def readDocument {α : Type} (readValue : Position → ReadM α) (text : String) : Except Fault α := do
  let document := Document.ofText text
  let (value, _) ← readValue ⟨document.root.getD .empty, {}⟩ document 0
  if document.isWhole then return value else throw (.ofProblem .unreadable)

end RootFold.Yaml
