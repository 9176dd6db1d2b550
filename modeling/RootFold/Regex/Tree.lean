import RootFold.Regex.Fault

/-!
# `RootFold.Regex.Tree` — regular expressions as they are written

The tree of an expression keeps what was written and where; what it means depends on the flags in force, which are
part of it.

## Contents
- **Flags.** `Flag`, `FlagChange`.
- **Signs.** `Literal`, `ShortClass`, `PosixClass`, `PropertyQuery`, `Assertion`.
- **Sets.** `SetOperation`, `CharSet`.
- **Trees.** `Tree`, and `Tree.tooDeep?`, the first part that is nested too deeply.
-/

namespace RootFold.Regex

/-! ## Flags -/

/-- **A flag,** which is in force or not. -/
inductive Flag where
  | ignoreCase
  | multiLine
  | dotMatchesBreaks
  | carriageReturns
  | swapGreed
  | unicode
  | ignoreSpace
  deriving DecidableEq, Repr

/-- **Flags that are set or cleared.** -/
abbrev FlagChange := List (Flag × Bool)

/-- What a change makes of a flag, if it concerns it. -/
def FlagChange.state? (change : FlagChange) (flag : Flag) : Option Bool := (change.find? (·.1 == flag)).map (·.2)

/-! ## Signs -/

/-- **A character that stands for itself,** or an octet given by two digits. -/
structure Literal where
  span : Span
  char : Char
  isOctet : Bool := false
  deriving DecidableEq, Repr

/-- The classes with a letter of their own. -/
inductive ShortClass where
  | digit
  | space
  | word
  deriving DecidableEq, Repr

/-- The classes of ASCII that have a name. -/
inductive PosixClass where
  | alnum
  | alpha
  | ascii
  | blank
  | cntrl
  | digit
  | graph
  | lower
  | print
  | punct
  | space
  | upper
  | word
  | xdigit
  deriving DecidableEq, Repr

/-- The names of the classes of ASCII. -/
def PosixClass.names : List (String × PosixClass) :=
  [("alnum", alnum), ("alpha", alpha), ("ascii", ascii), ("blank", blank), ("cntrl", cntrl), ("digit", digit),
   ("graph", graph), ("lower", lower), ("print", print), ("punct", punct), ("space", space), ("upper", upper),
   ("word", word), ("xdigit", xdigit)]

/-- **The name of a property of characters,** or of one of its values. -/
inductive PropertyQuery where
  | named (name : String)
  | valued (name value : String)
  deriving DecidableEq, Repr

/-- **What is asserted of a place.** -/
inductive Assertion where
  | lineStart
  | lineEnd
  | textStart
  | textEnd
  | boundary
  | noBoundary
  | wordStart
  | wordEnd
  | halfStart
  | halfEnd
  deriving DecidableEq, Repr

/-! ## Sets -/

/-- How two sets are combined. -/
inductive SetOperation where
  | intersection
  | difference
  | symmetricDifference
  deriving DecidableEq, Repr

/-- **A set of characters.** -/
inductive CharSet where
  | literal (content : Literal)
  | range (first last : Literal)
  | posix (span : Span) (negated : Bool) (kind : PosixClass)
  | short (span : Span) (negated : Bool) (kind : ShortClass)
  | property (span : Span) (negated : Bool) (query : PropertyQuery)
  | bracketed (span : Span) (negated : Bool) (content : CharSet)
  | union (span : Span) (items : List CharSet)
  | combined (span : Span) (operation : SetOperation) (left right : CharSet)
  deriving Repr

/-- The text that a set was read from. -/
def CharSet.span : CharSet → Span
  | literal content => content.span
  | range first last => ⟨first.span.first, last.span.last⟩
  | posix span .. => span
  | short span .. => span
  | property span .. => span
  | bracketed span .. => span
  | union span _ => span
  | combined span .. => span

mutual

/-- The first part of a set that is nested deeper than a limit allows. -/
def CharSet.tooDeep? (room : Nat) : CharSet → Option Span
  | .bracketed span _ content =>
    match room with
    | 0 => some span
    | room + 1 => content.tooDeep? room
  | .union span items =>
    match items, room with
    | [], _ => none
    | _, 0 => some span
    | items, room + 1 => CharSet.firstTooDeep? room items
  | .combined span _ left right =>
    match room with
    | 0 => some span
    | room + 1 => left.tooDeep? room <|> right.tooDeep? room
  | _ => none

/-- The same for several sets. -/
def CharSet.firstTooDeep? (room : Nat) : List CharSet → Option Span
  | [] => none
  | set :: rest => set.tooDeep? room <|> CharSet.firstTooDeep? room rest

end

/-! ## Trees -/

/-- **A regular expression.** -/
inductive Tree where
  | empty
  /-- From here on, up to the end of the group, flags are changed. -/
  | change (flags : FlagChange)
  | literal (content : Literal)
  | dot (span : Span)
  | assertion (kind : Assertion)
  /-- A class outside brackets, or a set in brackets. -/
  | oneOf (content : CharSet)
  | repetition (span : Span) (least : Nat) (most : Option Nat) (body : Tree)
  | group (span : Span) (flags : FlagChange) (body : Tree)
  | sequence (span : Span) (items : List Tree)
  | alternatives (span : Span) (branches : List Tree)
  deriving Repr

namespace Tree

/-- Whether something can be repeated. -/
def isRepeatable : Tree → Bool
  | empty => false
  | change _ => false
  | _ => true

mutual

/-- **The first part that is nested deeper than a limit allows.** -/
def tooDeep? (room : Nat) : Tree → Option Span
  | .oneOf content => content.tooDeep? room
  | .repetition span _ _ body =>
    match room with
    | 0 => some span
    | room + 1 => body.tooDeep? room
  | .group span _ body =>
    match room with
    | 0 => some span
    | room + 1 => body.tooDeep? room
  | .sequence span items =>
    match room with
    | 0 => some span
    | room + 1 => firstTooDeep? room items
  | .alternatives span branches =>
    match room with
    | 0 => some span
    | room + 1 => firstTooDeep? room branches
  | _ => none

/-- The same for several trees. -/
def firstTooDeep? (room : Nat) : List Tree → Option Span
  | [] => none
  | tree :: rest => tree.tooDeep? room <|> firstTooDeep? room rest

end

end Tree

end RootFold.Regex
