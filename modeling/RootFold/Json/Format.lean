import RootFold.Json.Reader
import RootFold.Document.Format

/-!
# `RootFold.Json.Format` — reading values from JSON

A record is an object of named fields, or an array of its fields in order. A word out of several is a string, or
an object with that one key and nothing under it. JSON faults have no place.

## Contents
- **Mismatches.** `Json.mismatch` tells what stands where something else was expected.
- **Positions.** `Json.readText`, `readFlag`, `readChoice`, `readOptional`, `readList`, `readTable`, `readRecord`.
- **Documents.** `Json.readDocument`.
-/

namespace RootFold.Json

open Document

/-- What a JSON reading gives: a value or a fault. -/
abbrev ReadM := Except Fault

/-- Stop with a problem. -/
def fail {α : Type} (problem : Problem) : ReadM α := .error (.ofProblem problem)

/-- How a number is told. -/
def Number.found : Number → Found
  | integer n => .integer n
  | float x => .decimal (numberLayout.write x)

/-- How a value is told; what cannot be used cannot be told either. -/
def found? : Json → Option Found
  | null => some (.kind "null")
  | boolean b => some (.boolean b)
  | number n => some n.found
  | string s => some (.text s)
  | array _ => some (.kind "sequence")
  | object _ => some (.kind "map")
  | halfPair => none
  | outOfRange => none
  | broken => none

/-- **The problem with a value** that stands where something else was expected. -/
def mismatch (expected : String) (value : Json) : Problem :=
  match value.found? with
  | some found => .wrongType found expected
  | none => .unreadable

/-! ## Positions -/

/-- A text. -/
def readText (expected : String) : Json → ReadM String
  | string s => .ok s
  | value => fail (value.mismatch expected)

/-- A truth value. -/
def readFlag : Json → ReadM Bool
  | boolean b => .ok b
  | value => fail (value.mismatch "a boolean")

/-- The value of a word. -/
def lookUpWord {α : Type} (words : List (String × α)) (word : String) : ReadM α :=
  match words.find? (·.1 == word) with
  | some (_, value) => .ok value
  | none => fail (.unknownVariant word (words.map (·.1)))

/-- **One of several words,** alone or as the only key of an object. -/
def readChoice {α : Type} (words : List (String × α)) : Json → ReadM α
  | string word => lookUpWord words word
  | object ((string word, content) :: rest) => do
    let value ← lookUpWord words word
    match content, rest with
    | null, [] => return value
    | null, _ => fail .unreadable
    | content, _ => fail (content.mismatch "unit")
  | object ((key, _) :: _) => fail (key.mismatch "variant identifier")
  | _ => fail .unreadable

/-- A value or `null`. -/
def readOptional {α : Type} (read : Json → ReadM α) : Json → ReadM (Option α)
  | null => .ok none
  | value => (read value).map some

/-- The items of an array. -/
def readList {α : Type} (read : Json → ReadM α) : Json → ReadM (List α)
  | array items => items.mapM read
  | value => fail (value.mismatch "a sequence")

/-- A key. Only strings are keys. -/
def readKey : Json → ReadM String
  | string key => .ok key
  | _ => fail .unreadable

/-- The fields of an object, in order. -/
def readTable {α : Type} (read : Json → ReadM α) : Json → ReadM (List (String × α))
  | object fields => fields.mapM fun (key, value) => do return (← readKey key, ← read value)
  | value => fail (value.mismatch "a map")

variable {Draft α : Type}

/-- Read the fields of an object into a draft. -/
def readFields (r : Record Json ReadM Draft α) (seen : List String) (draft : Draft) :
    List (Json × Json) → ReadM Draft
  | [] => .ok draft
  | (key, value) :: rest => do
    let name ← readKey key
    match r.field? name with
    | some field =>
      if seen.contains name then fail (.duplicateField name)
      else readFields r (name :: seen) (← field.read draft value) rest
    | none =>
      if r.strict then fail (.unknownField name r.names)
      else if value.isSound then readFields r seen draft rest
      else fail .unreadable

/-- Read the items of an array into a draft, each for the field in its place. The draft and the items that are
    left. -/
def readInOrder (draft : Draft) : List (Field Json ReadM Draft) → List Json → ReadM (Draft × List Json)
  | field :: fields, item :: items => do readInOrder (← field.read draft item) fields items
  | _, items => .ok (draft, items)

/-- **A record,** by names or in order. -/
def readRecord (r : Record Json ReadM Draft α) : Json → ReadM α
  | object fields => do
    let draft ← readFields r [] r.start fields
    match r.finish draft with
    | .ok value => return value
    | .error name => fail (.missingField name)
  | array items => do
    let (draft, left) ← readInOrder r.start r.fields items
    match r.finish draft with
    | .error _ => fail (.wrongLength items.length s!"struct {r.name} with {r.fields.length} elements")
    | .ok value => if left.isEmpty then return value else fail .unreadable
  | value => fail (value.mismatch s!"struct {r.name}")

instance : Format Json ReadM where
  text := readText
  flag := readFlag
  choice := readChoice
  optional := readOptional
  list := readList
  table _ := readTable
  record := readRecord

/-! ## Documents -/

/-- **A value from a whole text.** What follows the value must be blank, but a fault in the value comes first. -/
def readDocument {α : Type} (readValue : Json → ReadM α) (text : String) : ReadM α := do
  let reading := read text
  let value ← readValue reading.value
  if reading.isWhole then return value else fail .unreadable

end RootFold.Json
