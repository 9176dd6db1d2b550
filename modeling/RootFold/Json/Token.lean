import RootFold.Json.Number
import RootFold.Text.Hexadecimal

/-!
# `RootFold.Json.Token` — JSON texts as tokens

A text is cut into marks, which give it structure, and values without structure. Where no token can be read the
list ends in `broken`.

## Contents
- **Tokens.** `Token`.
- **Strings.** `readString?`; a string with half of a surrogate pair cannot be held but ends where it ends.
- **Texts.** `Token.ofText`.
-/

namespace RootFold.Json

/-- **What a text is made of.** -/
inductive Token where
  | openArray
  | closeArray
  | openObject
  | closeObject
  | comma
  | colon
  | value (value : Json)
  /-- No token can be read from here on. -/
  | broken
  deriving Repr

/-! ## Strings -/

/-- The character after a backslash that a letter stands for. -/
def escaped? : Char → Option Char
  | '\x22' => some '\x22'
  | '\\' => some '\\'
  | '/' => some '/'
  | 'b' => some '\x08'
  | 'f' => some '\x0c'
  | 'n' => some '\n'
  | 'r' => some '\r'
  | 't' => some '\t'
  | _ => none

/-- A part of a string: a character, or a unit of 16 bits given by its number. -/
inductive StringPart where
  | char (c : Char)
  | unit (n : Nat)
  deriving Repr

/-- **The parts of a string** after its opening quote, and what follows its closing quote. -/
def stringParts? : List Char → Option (List StringPart × List Char)
  | [] => none
  | '\x22' :: rest => some ([], rest)
  | '\\' :: 'u' :: a :: b :: c :: d :: rest => do
    let n ← Text.hexNumber? [a, b, c, d]
    let (parts, after) ← stringParts? rest
    return (.unit n :: parts, after)
  | '\\' :: c :: rest => do
    let c ← escaped? c
    let (parts, after) ← stringParts? rest
    return (.char c :: parts, after)
  | c :: rest =>
    if c == '\\' || c < ' ' then none
    else do
      let (parts, after) ← stringParts? rest
      return (.char c :: parts, after)

/-- Whether a unit is the first, or the second, of a surrogate pair. -/
def isLeading (n : Nat) : Bool := 0xD800 ≤ n && n < 0xDC00
def isTrailing (n : Nat) : Bool := 0xDC00 ≤ n && n < 0xE000

/-- **The characters of a string,** unless it holds half a surrogate pair. -/
def joinParts? : List StringPart → Option (List Char)
  | [] => some []
  | .char c :: rest => (joinParts? rest).map (c :: ·)
  | .unit n :: .unit m :: rest =>
    if isLeading n then
      if isTrailing m then
        (joinParts? rest).map (Char.ofNat (0x10000 + (n - 0xD800) * 0x400 + (m - 0xDC00)) :: ·)
      else none
    else if isTrailing n then none
    else (joinParts? (.unit m :: rest)).map (Char.ofNat n :: ·)
  | .unit n :: rest => if isLeading n || isTrailing n then none else (joinParts? rest).map (Char.ofNat n :: ·)

/-- **A string** after its opening quote, and what follows it. -/
def readString? (text : List Char) : Option (Json × List Char) := do
  let (parts, after) ← stringParts? text
  match joinParts? parts with
  | some chars => return (.string (String.ofList chars), after)
  | none => return (.halfPair, after)

/-! ## Texts -/

/-- The words that stand for values. -/
def words : List (String × Json) := [("null", .null), ("true", .boolean true), ("false", .boolean false)]

/-- The word a text begins with, and what follows it. -/
def readWord? (text : List Char) : Option (Json × List Char) :=
  words.findSome? fun (word, value) =>
    if word.toList.isPrefixOf text then some (value, text.drop word.length) else none

/-- Whether a character may stand between tokens. -/
def isSpace (c : Char) : Bool := c == ' ' || c == '\n' || c == '\t' || c == '\r'

/-- The mark that a character is. -/
def mark? : Char → Option Token
  | '[' => some .openArray
  | ']' => some .closeArray
  | '\x7b' => some .openObject
  | '\x7d' => some .closeObject
  | ',' => some .comma
  | ':' => some .colon
  | _ => none

/-- The value a text begins with, and what follows it. -/
def readValue? (text : List Char) : Option (Json × List Char) :=
  match text with
  | '\x22' :: rest => readString? rest
  | c :: _ =>
    if c == '-' || c.isDigit then
      (Numeral.read? text).map fun (n, after) =>
        (match n.value with
          | some v => .number v
          | none => .outOfRange, after)
    else readWord? text
  | [] => none

/-- **The tokens of a text.** `fuel` bounds their number; the length of the text is enough. -/
def tokensOf : (fuel : Nat) → List Char → List Token
  | _, [] => []
  | 0, _ => [.broken]
  | fuel + 1, c :: rest =>
    if isSpace c then tokensOf fuel rest
    else
      match mark? c with
      | some mark => mark :: tokensOf fuel rest
      | none =>
        match readValue? (c :: rest) with
        | some (value, after) => .value value :: tokensOf fuel after
        | none => [.broken]

/-- The tokens of a text. -/
def Token.ofText (text : String) : List Token := tokensOf text.toList.length text.toList

end RootFold.Json
