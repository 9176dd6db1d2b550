import RootFold.Document.Problem

/-!
# `RootFold.Document.Format` — reading values from documents of any format

A reader of values says what it wants of a position in a document: a text, a flag, a list, a record of named
fields. A format says how each of these is got from its own positions, and in what monad. A reader that is
written over `Format` works for every format.

## Contents
- **Records.** `Field`, `Record`: fields are met in any order and collected in a draft, which is then finished.
- **Formats.** The class `Format`.
-/

namespace RootFold.Document

/-- **A field of a record:** its name and how its content changes the draft. -/
structure Field (Position : Type) (m : Type → Type) (Draft : Type) where
  name : String
  read : Draft → Position → m Draft

/-- **A record:** its fields in order, and how a draft is begun and finished. A draft that lacks a field cannot
    be finished, and the name of the field is given instead. -/
structure Record (Position : Type) (m : Type → Type) (Draft α : Type) where
  /-- The word for such a record. -/
  name : String
  /-- Whether fields of other names are refused. -/
  strict : Bool
  fields : List (Field Position m Draft)
  start : Draft
  finish : Draft → Except String α

namespace Record

variable {Position Draft α : Type} {m : Type → Type}

/-- The names of the fields, in order. -/
def names (r : Record Position m Draft α) : List String := r.fields.map (·.name)

/-- The field of a name. -/
def field? (r : Record Position m Draft α) (name : String) : Option (Field Position m Draft) :=
  r.fields.find? (·.name == name)

end Record

/-- **A format:** how values are read from its positions. -/
class Format (Position : Type) (m : outParam (Type → Type)) where
  /-- A text, described as `expected` when there is none. -/
  text (expected : String) : Position → m String
  /-- A truth value. -/
  flag : Position → m Bool
  /-- One of several words, each with its value. -/
  choice {α : Type} (words : List (String × α)) : Position → m α
  /-- A value or an explicit nothing. -/
  optional {α : Type} (read : Position → m α) : Position → m (Option α)
  /-- Values in a row. -/
  list {α : Type} (read : Position → m α) : Position → m (List α)
  /-- Values under texts, in order; a key that is no text is described as no `expectedKey`. -/
  table {α : Type} (expectedKey : String) (read : Position → m α) : Position → m (List (String × α))
  /-- A record of named fields. -/
  record {Draft α : Type} (r : Record Position m Draft α) : Position → m α

end RootFold.Document
