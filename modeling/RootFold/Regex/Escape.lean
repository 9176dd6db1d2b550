import RootFold.Regex.Cursor
import RootFold.Text.Hexadecimal

/-!
# `RootFold.Regex.Escape` — what stands after a backslash

A backslash takes the special meaning from a sign, and gives one to a letter: characters by number or by letter,
classes, properties, and assertions about a place. What would refer to an earlier group is refused.

## Contents
- **Signs.** `Sign`, what a single sign of an expression can be.
- **Numbers.** `readHex`, with a fixed count of digits or between braces.
- **Properties.** `readProperty`.
- **Boundaries.** `readBoundaryName?`.
- **Escapes.** `readEscape`.
-/

namespace RootFold.Regex

/-- **A single sign of an expression.** -/
inductive Sign where
  | literal (content : Literal)
  | dot (span : Span)
  | assertion (span : Span) (kind : Assertion)
  | short (span : Span) (negated : Bool) (kind : ShortClass)
  | property (span : Span) (negated : Bool) (query : PropertyQuery)
  deriving Repr

/-- The text that a sign was read from. -/
def Sign.span : Sign → Span
  | literal content => content.span
  | dot span => span
  | assertion span _ => span
  | short span .. => span
  | property span .. => span

namespace ReadM

/-! ## Numbers -/

/-- The character with a code point. -/
def character? (digits : List Char) : Option Char := do
  let n ← Text.hexNumber? digits
  if n.isValidChar then some (Char.ofNat n) else none

/-- Whether a character is a digit in base sixteen. -/
def isHexDigit (c : Char) : Bool := (Text.hexDigit? c).isSome

/-- A count of digits, from the place of the first to behind the last. -/
def readHexDigits : Nat → ReadM (List Char)
  | 0 => return []
  | n + 1 => do
    match ← peek with
    | none => fail (.at (← here)) .endOfEscape
    | some c =>
      if !isHexDigit c then fail (← spanHere) .hexDigit
      let _ ← advanceSpaced
      return c :: (← readHexDigits n)

/-- Digits up to a closing brace. -/
def readHexBraced : (fuel : Nat) → ReadM (List Char)
  | 0 => return []
  | fuel + 1 => do
    match ← peek with
    | none => return []
    | some '\x7d' => return []
    | some c =>
      if !isHexDigit c then fail (← spanHere) .hexDigit
      let _ ← advanceSpaced
      return c :: (← readHexBraced fuel)

/-- **A character by its code point,** after the letter that says how many digits there are. -/
def readHex (start : Place) (count : Nat) : ReadM Literal := do
  if !(← advanceSpaced) then fail (.at (← here)) .endOfEscape
  if ← at? '\x7b' then
    let brace ← here
    let first := (← spanHere).last
    let _ ← advanceSpaced
    let digits ← readHexBraced (← bound)
    if ← atEnd then fail (← spanFrom brace) .endOfEscape
    let last ← here
    let _ ← advanceSpaced
    if digits.isEmpty then fail (← spanFrom brace) .emptyHex
    match character? digits with
    | none => fail ⟨first, last⟩ .noCharacter
    | some c => return ⟨← spanFrom start, c, false⟩
  else
    let first ← here
    let digits ← readHexDigits count
    match character? digits with
    | none => fail (← spanFrom first) .noCharacter
    | some c => return ⟨← spanFrom start, c, count == 2⟩

/-! ## Properties -/

/-- The characters up to a closing brace. -/
def readBraced : (fuel : Nat) → ReadM (List Char)
  | 0 => return []
  | fuel + 1 => do
    match ← peek with
    | none => return []
    | some '\x7d' => return []
    | some c =>
      let _ ← advanceSpaced
      return c :: (← readBraced fuel)

/-- What stands in front of the first occurrence of a part, and behind it. -/
def splitAt? (part : List Char) : List Char → Option (List Char × List Char)
  | [] => none
  | c :: rest =>
    if part.isPrefixOf (c :: rest) then some ([], (c :: rest).drop part.length)
    else (splitAt? part rest).map fun (before, after) => (c :: before, after)

/-- The query that a text between braces is. The signs between a name and its value all mean the same; only the
    letter in front of the braces negates. -/
def queryOf (text : List Char) : PropertyQuery :=
  match splitAt? ['!', '='] text <|> splitAt? [':'] text <|> splitAt? ['='] text with
  | some (name, value) => .valued (String.ofList name) (String.ofList value)
  | none => .named (String.ofList text)

/-- **A property,** after its letter: one more letter, or a name between braces. -/
def readProperty (start : Place) (negated : Bool) : ReadM Sign := do
  if !(← advanceSpaced) then fail (.at (← here)) .endOfEscape
  match ← peek with
  | some '\x7b' =>
    let _ ← advanceSpaced
    let text ← readBraced (← bound)
    if ← atEnd then fail (.at (← here)) .endOfEscape
    let _ ← advance
    return .property (← spanFrom start) negated (queryOf text)
  | some '\\' => fail (← spanHere) .propertyLetter
  | c =>
    let _ ← advanceSpaced
    return .property (← spanFrom start) negated (.named (String.ofList c.toList))

/-! ## Boundaries -/

/-- The assertions about words with a name between braces. -/
def boundaryNames : List (String × Assertion) :=
  [("start", .wordStart), ("end", .wordEnd), ("start-half", .halfStart), ("end-half", .halfEnd)]

/-- Whether a character may stand in such a name. -/
def isBoundaryChar (c : Char) : Bool := c.isAlpha || c == '-'

/-- The characters of such a name. -/
def readBoundaryChars : (fuel : Nat) → ReadM (List Char)
  | 0 => return []
  | fuel + 1 => do
    match ← peek with
    | none => return []
    | some c =>
      if !isBoundaryChar c then return []
      let _ ← advanceSpaced
      return c :: (← readBoundaryChars fuel)

/-- **The name of a boundary** after its letter. Anything else between braces is left to be a count. -/
def readBoundaryName? (start : Place) : ReadM (Option Assertion) := do
  if !(← at? '\x7b') then return none
  let before ← get
  if !(← advanceSpaced) then fail (← spanFrom start) .endOfBoundary
  let first ← here
  if !(← peek).any isBoundaryChar then
    set before
    return none
  let name ← readBoundaryChars (← bound)
  if !(← at? '\x7d') then fail (← spanFrom before.place) .unclosedBoundary
  let last ← here
  let _ ← advance
  match boundaryNames.find? (·.1 == String.ofList name) with
  | some (_, kind) => return some kind
  | none => fail ⟨first, last⟩ .unknownBoundary

/-! ## Escapes -/

/-- The characters that letters stand for. -/
def letterFor? : Char → Option Char
  | 'a' => some '\x07'
  | 'f' => some '\x0c'
  | 't' => some '\t'
  | 'n' => some '\n'
  | 'r' => some '\r'
  | 'v' => some '\x0b'
  | _ => none

/-- The assertions that signs stand for. -/
def assertionFor? : Char → Option Assertion
  | 'A' => some .textStart
  | 'z' => some .textEnd
  | 'b' => some .boundary
  | 'B' => some .noBoundary
  | '<' => some .wordStart
  | '>' => some .wordEnd
  | _ => none

/-- Whether a sign may follow a backslash and then stands for itself: any of ASCII but letters, digits and angle
    brackets. -/
def isEscapable (c : Char) : Bool := c.toNat < 0x80 && !c.isAlphanum && c != '<' && c != '>'

/-- The class of a letter, and whether it is negated. -/
def shortClass? : Char → Option (Bool × ShortClass)
  | 'd' => some (false, .digit)
  | 's' => some (false, .space)
  | 'w' => some (false, .word)
  | 'D' => some (true, .digit)
  | 'S' => some (true, .space)
  | 'W' => some (true, .word)
  | _ => none

/-- The count of digits that follow a letter. -/
def hexCount? : Char → Option Nat
  | 'x' => some 2
  | 'u' => some 4
  | 'U' => some 8
  | _ => none

/-- A sign of one letter or mark after the backslash. -/
def readShortEscape (start : Place) (c : Char) : ReadM Sign := do
  let _ ← advance
  let span ← spanFrom start
  match shortClass? c, letterFor? c, assertionFor? c with
  | some (negated, kind), _, _ => return .short span negated kind
  | none, some letter, _ => return .literal ⟨span, letter, false⟩
  | none, none, some kind =>
    let named ← if c == 'b' then readBoundaryName? start else pure none
    return .assertion (← spanFrom start) (named.getD kind)
  | none, none, none => if isEscapable c then return .literal ⟨span, c, false⟩ else fail span .unknownEscape

/-- **What a backslash begins.** -/
def readEscape : ReadM Sign := do
  let start ← here
  let _ ← advance
  match ← peek with
  | none => fail (← spanFrom start) .endOfEscape
  | some c =>
    if c.isDigit then fail ⟨start, (← spanHere).last⟩ .backreference
    else if c == 'p' || c == 'P' then readProperty start (c == 'P')
    else
      match hexCount? c with
      | some count => return .literal (← readHex start count)
      | none => readShortEscape start c

end ReadM

end RootFold.Regex
