import RootFold.Decimal.Layout

/-!
# `RootFold.Json.Value` — JSON values, also of texts that break off

A value as it stands in a text: fields keep their order and may repeat. A text that stops being JSON somewhere
still has a value up to there; the place where it stops is `broken`. A string with half of a surrogate pair is a
`halfPair`, and a number beyond the floating-point numbers is `outOfRange`. None of these can be used, but the last
two are well formed and can be passed over.

## Contents
- **Values.** `Json`, `Json.record`.
- **Soundness.** `Json.isSound`: nothing in the value is broken.
-/

namespace RootFold

/-- A number of a JSON text. -/
inductive Json.Number where
  | integer (value : Int)
  | float (value : Decimal.Binary64)
  deriving DecidableEq, Repr

/-- **A JSON value.** -/
inductive Json where
  | null
  | boolean (value : Bool)
  | number (value : Json.Number)
  | string (value : String)
  | array (items : List Json)
  /-- Keys are values, so that one that is no string can be told. -/
  | object (fields : List (Json × Json))
  /-- A string that holds half of a surrogate pair. -/
  | halfPair
  /-- A number that is too large. -/
  | outOfRange
  /-- Here the text stops being JSON. -/
  | broken
  deriving Repr, Inhabited

namespace Json

/-- Floating-point numbers are written out while their point lies near the digits. -/
def numberLayout : Decimal.Layout := ⟨some (-4), some 16, true, .toEven⟩

/-- An object of named fields. -/
def record (fields : List (String × Json)) : Json := object (fields.map fun (name, value) => (string name, value))

mutual

/-- **Whether nothing in a value is broken.** -/
def isSound : Json → Bool
  | array items => areSound items
  | object fields => areSoundFields fields
  | broken => false
  | _ => true

/-- Whether nothing in any of the values is broken. -/
def areSound : List Json → Bool
  | [] => true
  | item :: rest => isSound item && areSound rest

/-- Whether nothing in any of the fields is broken. -/
def areSoundFields : List (Json × Json) → Bool
  | [] => true
  | (key, value) :: rest => isSound key && isSound value && areSoundFields rest

end

end Json

end RootFold
