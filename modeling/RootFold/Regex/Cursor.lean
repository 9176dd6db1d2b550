import RootFold.Regex.Tree
import RootFold.Text.Blank

/-!
# `RootFold.Regex.Cursor` — going through the text of an expression

Reading goes through the text one character at a time. Where blanks and comments are to be ignored they are passed
over between the parts of an expression, and also inside many of them.

## Contents
- **State.** `Cursor` and the monad `ReadM`.
- **Looking.** `peek`, `peekNext`, `startsWith`, `here`, `spanHere`.
- **Moving.** `advance`, `skipSpace`, `advanceSpaced`.
-/

namespace RootFold.Regex

/-! ## State -/

/-- **Where reading stands.** -/
structure Cursor where
  rest : List Char
  place : Place := {}
  /-- Whether blanks and comments are passed over. -/
  ignoresSpace : Bool := false
  /-- The names of groups so far, and where they stand. -/
  names : List (String × Span) := []
  deriving Repr

/-- **A part of reading.** -/
abbrev ReadM := StateT Cursor (Except Fault)

namespace ReadM

/-- Stop because of a span of the text. -/
def fail {α : Type} (span : Span) (cause : Cause) : ReadM α := throw ⟨span, cause⟩

/-! ## Looking -/

/-- The next character, if there is one. -/
def peek : ReadM (Option Char) := do return (← get).rest.head?

/-- Whether the text is over. -/
def atEnd : ReadM Bool := do return (← get).rest.isEmpty

/-- Whether the next character is the given one. -/
def at? (c : Char) : ReadM Bool := do return (← peek) == some c

/-- The place of the next character. -/
def here : ReadM Place := do return (← get).place

/-- The span of the next character, or of nothing at the end. -/
def spanHere : ReadM Span := do
  let s ← get
  return ⟨s.place, s.rest.head?.elim s.place s.place.after⟩

/-- The span from a place up to here. -/
def spanFrom (first : Place) : ReadM Span := do return ⟨first, ← here⟩

/-- The text without a comment's blanks: what follows blanks, one hash and more blanks. -/
def pastSpace (text : List Char) : List Char :=
  match Text.skipBlanks text with
  | '#' :: rest => Text.skipBlanks rest
  | rest => rest

/-- The character after the next one; if blanks are ignored, the first after it that is none. -/
def peekNext : ReadM (Option Char) := do
  let s ← get
  let after := s.rest.tail
  if s.ignoresSpace then return (pastSpace after).head? <|> after.head? else return after.head?

/-- Whether the text goes on with the given one. -/
def startsWith (part : String) : ReadM Bool := do return part.toList.isPrefixOf (← get).rest

/-! ## Moving -/

/-- One character further. The answer is whether there is another. -/
def advance : ReadM Bool := do
  let s ← get
  match s.rest with
  | [] => return false
  | c :: rest =>
    set { s with rest, place := s.place.after c }
    return !rest.isEmpty

/-- Some characters further. -/
def skip : Nat → ReadM Unit
  | 0 => return
  | n + 1 => do
    let _ ← advance
    skip n

/-- Go past the given text, if it comes next. -/
def skip? (part : String) : ReadM Bool := do
  if ← startsWith part then
    skip part.length
    return true
  else return false

/-- Blanks and comments in front of a text, left out. A comment goes from a hash to the end of its line. -/
def dropSpace (inComment : Bool) : List Char → Place → List Char × Place
  | [], p => ([], p)
  | c :: rest, p =>
    if inComment then dropSpace (c != '\n') rest (p.after c)
    else if Text.isBlank c then dropSpace false rest (p.after c)
    else if c == '#' then dropSpace true rest (p.after c)
    else (c :: rest, p)

/-- Pass over blanks and comments, where they are ignored. -/
def skipSpace : ReadM Unit := modify fun s =>
  if s.ignoresSpace then
    let (rest, place) := dropSpace false s.rest s.place
    { s with rest, place }
  else s

/-- One character and what is ignored further. The answer is whether the text goes on. -/
def advanceSpaced : ReadM Bool := do
  if ← advance then
    skipSpace
    return !(← atEnd)
  else return false

/-- A bound for how many characters are left. -/
def bound : ReadM Nat := do return (← get).rest.length + 1

end ReadM

end RootFold.Regex
