import RootFold.Regex.Bracket
import RootFold.Unicode.Property

/-!
# `RootFold.Regex.Reader` — from the text of an expression to its tree

An expression is read level by level: a level is a list of alternatives, each a list of items, and a group is a
level of its own. A sign of repetition concerns the item in front of it.

## Contents
- **Flags.** `readFlags`.
- **Groups.** `readGroupName`, `readGroupHead`.
- **Repetition.** `Draft`, `readCount`, `readRepetition`.
- **Levels.** `readLevel`.
- **Expressions.** `Tree.read`.
-/

namespace RootFold.Regex

namespace ReadM

/-! ## Flags -/

/-- The flag of a letter. -/
def flagOf? : Char → Option Flag
  | 'i' => some .ignoreCase
  | 'm' => some .multiLine
  | 's' => some .dotMatchesBreaks
  | 'R' => some .carriageReturns
  | 'U' => some .swapGreed
  | 'u' => some .unicode
  | 'x' => some .ignoreSpace
  | _ => none

/-- **Flags while they are read:** each letter or hyphen with its place, and the last hyphen if no letter followed. -/
structure FlagDraft where
  flags : List (Flag × Span) := []
  negation : Option Span := none
  change : FlagChange := []
  dangling : Option Span := none

/-- Flags up to a colon or a closing parenthesis. -/
def readFlags : (fuel : Nat) → FlagDraft → ReadM FlagDraft
  | 0, d => return d
  | fuel + 1, d => do
    let span ← spanHere
    match ← peek with
    | none => fail span .endOfFlags
    | some ':' => return d
    | some ')' => return d
    | some '-' =>
      match d.negation with
      | some earlier => fail span (.repeatedNegation earlier)
      | none =>
        if !(← advance) then fail (.at (← here)) .endOfFlags
        readFlags fuel { d with negation := some span, dangling := some span }
    | some c =>
      match flagOf? c with
      | none => fail span .unknownFlag
      | some flag =>
        match d.flags.find? (·.1 == flag) with
        | some (_, earlier) => fail span (.repeatedFlag earlier)
        | none =>
          if !(← advance) then fail (.at (← here)) .endOfFlags
          readFlags fuel { d with
            flags := (flag, span) :: d.flags
            change := d.change ++ [(flag, d.negation.isNone)]
            dangling := none }

/-! ## Groups -/

/-- Whether a character may stand in the name of a group. -/
def isNameChar (first : Bool) (c : Char) : Bool :=
  c == '_' || Unicode.isAlphabetic c ||
    (!first && (c == '.' || c == '[' || c == ']' || Unicode.isNumeric c))

/-- The characters of a name, up to an angle bracket. -/
def readNameChars : (fuel : Nat) → (first : Bool) → ReadM (List Char)
  | 0, _ => return []
  | fuel + 1, first => do
    match ← peek with
    | none => return []
    | some '>' => return []
    | some c =>
      if !isNameChar first c then fail (← spanHere) .badName
      let _ ← advance
      return c :: (← readNameChars fuel false)

/-- **The name of a group,** which no other group has. -/
def readGroupName : ReadM Unit := do
  let start ← here
  if ← atEnd then fail (.at start) .unclosedName
  let name := String.ofList (← readNameChars (← bound) true)
  let span ← spanFrom start
  if ← atEnd then fail (.at (← here)) .unclosedName
  let _ ← advance
  if name.isEmpty then fail (.at start) .emptyName
  match (← get).names.find? (·.1 == name) with
  | some (_, earlier) => fail span (.repeatedName earlier)
  | none => modify fun s => { s with names := (name, span) :: s.names }

/-- **What an opening parenthesis begins.** -/
inductive GroupHead where
  /-- A change of flags for what follows. -/
  | change (flags : FlagChange)
  /-- A group with flags of its own. -/
  | group (opening : Span) (flags : FlagChange)

/-- Flags after a question mark, for what follows or for a group. -/
def readFlagHead (opening : Span) (inner : Place) : ReadM GroupHead := do
  if ← atEnd then fail opening .unclosedGroup
  let d ← readFlags (← bound) {}
  if let some span := d.dangling then fail span .nothingNegated
  let closes ← at? ')'
  let _ ← advance
  if !closes then return .group opening d.change
  else if d.change.isEmpty then fail (.at inner) .nothingRepeated
  else return .change d.change

/-- **The beginning of a group.** -/
def readGroupHead : ReadM GroupHead := do
  let opening ← spanHere
  let _ ← advance
  skipSpace
  let inner ← here
  for part in ["?=", "?!", "?<=", "?<!"] do
    if ← skip? part then fail (← spanFrom opening.first) .lookAround
  if (← skip? "?P<") || (← skip? "?<") then
    readGroupName
    return .group opening []
  else if ← skip? "?" then readFlagHead opening inner
  else return .group opening []

/-! ## Repetition -/

/-- **A level while it is read:** its alternatives and the items of the last one, each the last first and items with
    their places. -/
structure Draft where
  /-- Where the level begins, and where its last alternative does. -/
  start : Place
  branchStart : Place
  items : List (Place × Tree) := []
  branches : List Tree := []

namespace Draft

/-- One more item. -/
def push (d : Draft) (start : Place) (tree : Tree) : Draft := { d with items := (start, tree) :: d.items }

/-- The items of the last alternative as one tree, up to a place. -/
def branch (d : Draft) (last : Place) : Tree :=
  match d.items with
  | [] => .empty
  | [(_, tree)] => tree
  | items => .sequence ⟨d.branchStart, last⟩ (items.reverse.map (·.2))

/-- The level as one tree, up to a place. -/
def toTree (d : Draft) (last : Place) : Tree :=
  if d.branches.isEmpty then d.branch last
  else .alternatives ⟨d.start, last⟩ (d.branch last :: d.branches).reverse

/-- The level with the next alternative begun. -/
def nextBranch (d : Draft) (last next : Place) : Draft :=
  { d with branchStart := next, items := [], branches := d.branch last :: d.branches }

end Draft

/-- Blanks, also where they are not ignored. -/
def skipBlanks : (fuel : Nat) → ReadM Unit
  | 0 => return
  | fuel + 1 => do
    if (← peek).any Text.isBlank then
      let _ ← advance
      skipBlanks fuel

/-- Decimal digits, and what is ignored between them. -/
def readDigits : (fuel : Nat) → ReadM (List Char)
  | 0 => return []
  | fuel + 1 => do
    match ← peek with
    | none => return []
    | some c =>
      if !c.isDigit then return []
      let _ ← advanceSpaced
      return c :: (← readDigits fuel)

/-- A number of a count, or what is wrong with it. It must fit 32 bits. -/
def readNumber : ReadM (Except Fault Nat) := do
  skipBlanks (← bound)
  let start ← here
  let digits ← readDigits (← bound)
  let span ← spanFrom start
  skipBlanks (← bound)
  if digits.isEmpty then return .error ⟨span, .emptyCount⟩
  else
    let n := digits.foldl (fun n c => n * 10 + (c.toNat - '0'.toNat)) 0
    if n < Nat.pow 2 32 then return .ok n else return .error ⟨span, .numberTooLarge⟩

/-- The count after an opening brace: the least and, if there is one, the greatest number of times. A count that
    stays open is a fault before its numbers are looked at. -/
def readBounds (start : Place) : ReadM (Nat × Option Nat) := do
  if !(← advanceSpaced) then fail (← spanFrom start) .unclosedCount
  let least ← readNumber
  if ← atEnd then fail (← spanFrom start) .unclosedCount
  if ← at? ',' then
    if !(← advanceSpaced) then fail (← spanFrom start) .unclosedCount
    if ← at? '\x7d' then return (← least, none)
    else
      let least ← least
      return (least, some (← (← readNumber)))
  else
    let n ← least
    return (n, some n)

/-- A question mark after a sign of repetition, which asks for few instead of many. -/
def skipLaziness : ReadM Unit := do
  let _ ← skip? "?"

/-- **A count** between braces. -/
def readCount : ReadM (Nat × Option Nat) := do
  let start ← here
  let (least, most) ← readBounds start
  if !(← at? '\x7d') then fail (← spanFrom start) .unclosedCount
  let _ ← advanceSpaced
  skipLaziness
  if most.any (· < least) then fail (← spanFrom start) .unorderedCount
  return (least, most)

/-- How often an item is repeated for a sign other than a brace. -/
def shortCount (c : Char) : Nat × Option Nat :=
  if c == '?' then (0, some 1) else if c == '*' then (0, none) else (1, none)

/-- **A sign of repetition,** which concerns the last item. -/
def readRepetition (d : Draft) (c : Char) : ReadM Draft := do
  match d.items with
  | [] => fail (.at (← here)) .nothingRepeated
  | (start, body) :: items =>
    if !body.isRepeatable then fail (.at (← here)) .nothingRepeated
    let (least, most) ← if c == '\x7b' then readCount else do
      let _ ← advance
      skipLaziness
      pure (shortCount c)
    return { d with items := (start, .repetition (← spanFrom start) least most body) :: items }

/-! ## Levels -/

/-- A sign as a tree. -/
def treeOf : Sign → Tree
  | .literal content => .literal content
  | .dot span => .dot span
  | .assertion _ kind => .assertion kind
  | .short span negated kind => .oneOf (.short span negated kind)
  | .property span negated query => .oneOf (.property span negated query)

/-- A sign outside brackets. -/
def readSign (c : Char) : ReadM Sign := do
  let span ← spanHere
  if c == '\\' then readEscape
  else
    let _ ← advance
    match c with
    | '.' => return .dot span
    | '^' => return .assertion span .lineStart
    | '$' => return .assertion span .lineEnd
    | c => return .literal ⟨span, c, false⟩

/-- Ignore blanks from here on, or stop doing so, if the flags say either. -/
def heedFlags (change : FlagChange) : ReadM Unit :=
  modify fun s => { s with ignoresSpace := (change.state? .ignoreSpace).getD s.ignoresSpace }

/-- **A level,** up to its closing parenthesis or the end of the text. Every round takes a character. -/
def readLevel (opening : Option Span) : (fuel : Nat) → Draft → ReadM Tree
  | 0, d => return d.toTree (← here)
  | fuel + 1, d => do
    skipSpace
    let start ← here
    match ← peek with
    | none =>
      match opening with
      | some span => fail span .unclosedGroup
      | none => return d.toTree start
    | some ')' => if opening.isNone then fail (← spanHere) .unopenedGroup else return d.toTree start
    | some '|' =>
      let _ ← advance
      readLevel opening fuel (d.nextBranch start (← here))
    | some '(' =>
      match ← readGroupHead with
      | .change flags =>
        heedFlags flags
        readLevel opening fuel (d.push start (.change flags))
      | .group span flags =>
        let ignoredSpace := (← get).ignoresSpace
        heedFlags flags
        let body ← readLevel (some span) fuel ⟨← here, ← here, [], []⟩
        modify fun s => { s with ignoresSpace := ignoredSpace }
        let _ ← advance
        readLevel opening fuel (d.push start (.group (← spanFrom start) flags body))
    | some '[' => readLevel opening fuel (d.push start (.oneOf (← readBracket)))
    | some c =>
      if ['?', '*', '+', '\x7b'].contains c then readLevel opening fuel (← readRepetition d c)
      else readLevel opening fuel (d.push start (treeOf (← readSign c)))

end ReadM

/-! ## Expressions -/

/-- **The tree of an expression,** unless it cannot be read or is nested too deeply. -/
def Tree.read (pattern : String) : Except Fault Tree := do
  let text := pattern.toList
  let (tree, _) ← ReadM.readLevel none (text.length + 1) ⟨{}, {}, [], []⟩ { rest := text }
  match tree.tooDeep? nestingLimit with
  | some span => throw ⟨span, .tooDeep⟩
  | none => return tree

end RootFold.Regex
