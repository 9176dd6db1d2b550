/-!
# `RootFold.Regex.Expression` — regular expressions over sets of places

An expression leads from places of a text to places of it: from where a match may begin to where it may end. All
places are followed at once, as a set of bits, so that the work grows with the text and not with the number of
ways to match. A leaf keeps some of the places and moves them on by its width; repetition goes on until nothing
changes.

## Contents
- **Expressions.** `Expression`, over any kind of leaves; `Expression.map`.
- **Iteration.** `Places`, `iterate`, `onward`, `repeated`.
- **Places.** `Mask`, `Expression.reach`.
-/

namespace RootFold.Regex

/-! ## Expressions -/

/-- **A regular expression** over leaves of some kind. -/
inductive Expression (α : Type) where
  | nothing
  | leaf (content : α)
  | sequence (first second : Expression α)
  | either (first second : Expression α)
  /-- So many times at least, and at most if there is a bound. -/
  | repetition (least : Nat) (most : Option Nat) (body : Expression α)
  deriving Repr

namespace Expression

variable {α β : Type}

/-- The expression with other leaves. -/
def map (f : α → β) : Expression α → Expression β
  | nothing => nothing
  | leaf content => leaf (f content)
  | sequence first second => sequence (first.map f) (second.map f)
  | either first second => either (first.map f) (second.map f)
  | repetition least most body => repetition least most (body.map f)

/-- One expression after the other. -/
def sequenceOf : List (Expression α) → Expression α
  | [] => nothing
  | [e] => e
  | e :: rest => sequence e (sequenceOf rest)

/-- Any of several expressions, of which there is at least one. -/
def anyOf (first : Expression α) (others : List (Expression α)) : Expression α := others.foldl either first

end Expression

/-! ## Iteration -/

/-- **A set of places** in a text of `n` characters: before each, and at the end. -/
abbrev Places (n : Nat) := BitVec (n + 1)

section

variable {n : Nat} (f : Places n → Places n)

/-- So many steps. It stops where a step changes nothing. -/
def iterate : Nat → Places n → Places n
  | 0, s => s
  | k + 1, s =>
    let next := f s
    if next = s then s else iterate k next

/-- All places that one step leads to, or so many more at most. It stops where a step adds nothing, so that places
    from which nothing new is reached cost one step only, however deep repetitions are nested. -/
def onward : Nat → Places n → Places n
  | 0, s => f s
  | k + 1, s =>
    let next := f s
    if s ||| next = s then next else onward k (s ||| next)

/-- All places that `least` steps lead to, or so many more at most. -/
def repeated (least more : Nat) (s : Places n) : Places n :=
  match least, more with
  | 0, 0 => s
  | 0, more + 1 => s ||| onward f more s
  | least + 1, more => onward f more (iterate f least s)

end

/-! ## Places -/

/-- **A leaf in a text:** the places that it keeps, and how far it moves them. -/
structure Mask (n : Nat) where
  places : Places n
  width : Nat
  deriving Repr

namespace Expression

variable {n : Nat}

/-- **The places that an expression leads to.** A text has `n + 1` places, so that after as many steps nothing is
    added. -/
def reach : Expression (Mask n) → Places n → Places n
  | nothing, s => s
  | leaf mask, s => (s &&& mask.places) <<< mask.width
  | sequence first second, s => second.reach (first.reach s)
  | either first second, s => first.reach s ||| second.reach s
  | repetition least most body, s => repeated body.reach least (most.elim (n + 1) (· - least)) s

end Expression

end RootFold.Regex
