import RootFold.Regex.CharClass
import RootFold.Regex.Expression

/-!
# `RootFold.Regex.Meaning` — what regular expressions mean

The meaning of a tree under the flags in force is an expression whose leaves test characters or places. Flags that
are changed inside a group hold up to its end. An expression that would be too large when its repetitions are
written out is refused.

## Contents
- **Leaves.** `Test`, `Leaf`.
- **Assertions.** `Assertion.holds`.
- **Trees.** `Tree.meaning`.
- **Size.** `Expression.size`, `sizeLimit`.
-/

namespace RootFold.Regex

open Unicode

/-! ## Leaves -/

/-- **What a leaf asks:** for one character, or for what stands before and after a place. -/
inductive Test where
  | char (contains : Char → Bool)
  | place (holds : Option Char → Option Char → Bool)

/-- **A leaf,** with the size it has when written out. -/
structure Leaf where
  test : Test
  size : Nat

/-- The size of one step from a state to another. -/
def stateSize : Nat := 32

/-- A class as a leaf. Beyond ASCII its characters are taken octet by octet, which makes it larger; ASCII has at
    most 64 ranges with gaps between them. -/
def CharClass.toLeaf (k : CharClass) : Leaf :=
  ⟨.char k.contains, if k.isAscii then 2 * stateSize + 8 * min 64 k.weight else stateSize * (2 + k.weight)⟩

/-- A character that stands for itself, as a leaf. -/
def leafOfChar (flags : Flags) (c : Char) : Leaf :=
  match CharClass.variants flags c with
  | [c] => ⟨.char (· == c), stateSize * c.utf8Size⟩
  | variants => (CharClass.union (variants.map CharClass.single)).toLeaf

/-! ## Assertions -/

/-- Whether there is a character that is part of a word. -/
def isWordBeside (flags : Flags) (c : Option Char) : Bool := c.any (ShortClass.word.contains flags.unicode)

/-- Whether a line begins between two characters. -/
def startsLine (flags : Flags) (before after : Option Char) : Bool :=
  if flags.carriageReturns then
    before.all fun c => c == '\n' || (c == '\r' && after != some '\n')
  else before.all (· == '\n')

/-- Whether a line ends between two characters. -/
def endsLine (flags : Flags) (before after : Option Char) : Bool :=
  if flags.carriageReturns then
    after.all fun c => c == '\r' || (c == '\n' && before != some '\r')
  else after.all (· == '\n')

/-- **Whether an assertion holds between two characters.** -/
def Assertion.holds (flags : Flags) : Assertion → Option Char → Option Char → Bool
  | lineStart, before, after => if flags.multiLine then startsLine flags before after else before.isNone
  | lineEnd, before, after => if flags.multiLine then endsLine flags before after else after.isNone
  | textStart, before, _ => before.isNone
  | textEnd, _, after => after.isNone
  | boundary, before, after => isWordBeside flags before != isWordBeside flags after
  | noBoundary, before, after => isWordBeside flags before == isWordBeside flags after
  | wordStart, before, after => !isWordBeside flags before && isWordBeside flags after
  | wordEnd, before, after => isWordBeside flags before && !isWordBeside flags after
  | halfStart, before, _ => !isWordBeside flags before
  | halfEnd, _, after => !isWordBeside flags after

/-! ## Trees -/

/-- **A part of giving meaning:** it knows the flags and may change them. -/
abbrev MeaningM := StateT Flags (Except Fault)

/-- The characters that a dot stands for. Without Unicode it would let in single octets. -/
def dotClass (flags : Flags) (span : Span) : Except Fault CharClass :=
  if !flags.unicode then .error ⟨span, .invalidOctets⟩
  else .ok (.wide 14 fun c =>
    flags.dotMatchesBreaks || !(c == '\n' || (flags.carriageReturns && c == '\r')))

/-- The character of a literal outside sets. -/
def charOutside (flags : Flags) (content : Literal) : Except Fault Char :=
  if !flags.unicode && content.isOctet && 0x80 ≤ content.char.toNat then .error ⟨content.span, .invalidOctets⟩
  else .ok content.char

/-- An expression of one leaf. -/
def single (leaf : Except Fault Leaf) : MeaningM (Expression Leaf) := do return .leaf (← leaf)

mutual

/-- **The meaning of a tree.** -/
def Tree.meaning : Tree → MeaningM (Expression Leaf)
  | .empty => return .nothing
  | .change flags => do
    modify (·.after flags)
    return .nothing
  | .literal content => do
    let flags ← get
    single ((charOutside flags content).map (leafOfChar flags))
  | .dot span => do single ((dotClass (← get) span).map CharClass.toLeaf)
  | .assertion kind => do return .leaf ⟨.place (kind.holds (← get)), stateSize⟩
  | .oneOf content => do single ((content.charClass (← get)).map CharClass.toLeaf)
  | .repetition _ least most body => do return .repetition least most (← body.meaning)
  | .group _ flags body => do
    let outer ← get
    modify (·.after flags)
    let meaning ← body.meaning
    set outer
    return meaning
  | .sequence _ items => do return .sequenceOf (← Tree.meanings items)
  | .alternatives _ branches => do
    match ← Tree.meanings branches with
    | [] => return .nothing
    | first :: others => return .anyOf first others

/-- The meanings of several trees, one after the other. -/
def Tree.meanings : List Tree → MeaningM (List (Expression Leaf))
  | [] => return []
  | tree :: rest => do
    let meaning ← tree.meaning
    return meaning :: (← Tree.meanings rest)

end

/-! ## Size -/

namespace Expression

/-- Whether an expression never moves on. -/
def isStill : Expression Leaf → Bool
  | nothing => true
  | leaf content => match content.test with
    | .char _ => false
    | .place _ => true
  | sequence first second => first.isStill && second.isStill
  | either first second => first.isStill && second.isStill
  | repetition _ most body => body.isStill || most == some 0

/-- The size of a choice between two ways on. -/
def choiceSize : Nat := stateSize + 8

/-- **The size of an expression when its repetitions are written out.** To repeat what does not move on is to have
    it once. -/
def size : Expression Leaf → Nat
  | nothing => 0
  | leaf content => content.size
  | sequence first second => first.size + second.size
  | either first second => first.size + second.size + choiceSize
  | repetition least most body =>
    if body.isStill then body.size + choiceSize
    else
      match most with
      | none => max least 1 * body.size + choiceSize
      | some most => most * body.size + (most - least) * choiceSize

end Expression

/-- How large an expression may be: ten times two to the twentieth octets. -/
def sizeLimit : Nat := 10 * Nat.pow 2 20

end RootFold.Regex
