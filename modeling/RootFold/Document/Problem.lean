import RootFold.Text.Quoted

/-!
# `RootFold.Document.Problem` — what is wrong with a document

A document is read for what a reader wants of it. A `Problem` says how the document fails to be that; a `Fault`
is a problem with the place where it was met, in formats that have places. The wording is the same for all
formats.

## Contents
- **What was found.** `Found` and its wording.
- **Problems.** `Problem`, `Problem.message`.
- **Faults.** `Fault`, `Fault.message`, `Fault.within`.
-/

namespace RootFold.Document

/-- **What a document holds where something else was wanted.** -/
inductive Found where
  /-- Something that is told by its kind alone. -/
  | kind (word : String)
  | boolean (value : Bool)
  | integer (value : Int)
  /-- An integer beyond 64 bits, with the name of the width that holds it. -/
  | wideInteger (value : Int) (width : String)
  /-- A floating-point number, as its format writes it. -/
  | decimal (digits : String)
  | text (value : String)
  deriving Repr

/-- The wording of what was found. -/
def Found.message : Found → String
  | kind word => word
  | boolean value => s!"boolean `{value}`"
  | integer value => s!"integer `{value}`"
  | wideInteger value width => s!"integer `{value}` as {width}"
  | decimal digits => s!"floating point `{digits}`"
  | text value => s!"string {Text.quote value}"

/-- **How a document fails to be what is wanted.** -/
inductive Problem where
  /-- The text is not a document of its format. -/
  | unreadable
  | wrongType (found : Found) (expected : String)
  | wrongValue (found : Found) (expected : String)
  /-- A list that stands for a record is too short. -/
  | wrongLength (length : Nat) (expected : String)
  | unknownVariant (name : String) (known : List String)
  | unknownField (name : String) (known : List String)
  | missingField (name : String)
  | duplicateField (name : String)
  deriving Repr

/-- A choice of names, as messages give it. -/
def oneOf : List String → String
  | [name] => s!"`{name}`"
  | [name, other] => s!"`{name}` or `{other}`"
  | names => "one of " ++ ", ".intercalate (names.map fun name => s!"`{name}`")

/-- The wording of a problem. -/
def Problem.message : Problem → String
  | unreadable => "unreadable document"
  | wrongType found expected => s!"invalid type: {found.message}, expected {expected}"
  | wrongValue found expected => s!"invalid value: {found.message}, expected {expected}"
  | wrongLength length expected => s!"invalid length {length}, expected {expected}"
  | unknownVariant name known => s!"unknown variant `{name}`, expected {oneOf known}"
  | unknownField name known => s!"unknown field `{name}`, expected {oneOf known}"
  | missingField name => s!"missing field `{name}`"
  | duplicateField name => s!"duplicate field `{name}`"

/-- **A problem and the place where it was met,** if that is known. -/
structure Fault where
  place : Option String
  problem : Problem
  deriving Repr

namespace Fault

/-- A fault whose place is not known yet. -/
def ofProblem (problem : Problem) : Fault := ⟨none, problem⟩

/-- A fault met at a place; a place that is known already stands. -/
def within (place : String) (fault : Fault) : Fault := { fault with place := fault.place <|> some place }

/-- The wording of a fault, after its place. The place of the whole document goes without saying. -/
def message (fault : Fault) : String :=
  match fault.place with
  | none => fault.problem.message
  | some "" => fault.problem.message
  | some place => s!"{place}: {fault.problem.message}"

end Fault

end RootFold.Document
