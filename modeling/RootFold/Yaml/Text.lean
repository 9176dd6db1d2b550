/-!
# `RootFold.Yaml.Text` — the characters of a YAML text and places in it

Only some characters may stand in a YAML text at all. Line breaks are brought to one form first, so that each is
one character. Places are counted in characters, lines and columns.

## Contents
- **Characters.** `isAllowed`, `isBreak`, `isBlank`, `isWord`.
- **Places.** `Mark`, and `Cursor`, a mark with the text from there on.
- **Texts.** `normaliseBreaks`, `Cursor.ofText?`.
-/

namespace RootFold.Yaml

/-! ## Characters -/

/-- Whether a character may stand in a text. -/
def isAllowed (c : Char) : Bool :=
  c == '\t' || c == '\n' || c == '\r' || (' ' ≤ c && c ≤ '~') || c == '\u0085' || (0xA0 ≤ c.toNat && c.toNat ≤ 0xFFFD) ||
    0x10000 ≤ c.toNat

/-- Whether a character ends a line, once line breaks are in one form. -/
def isBreak (c : Char) : Bool := c == '\n' || c == '\u2028' || c == '\u2029'

/-- Whether a character is a space or a tab. -/
def isBlank (c : Char) : Bool := c == ' ' || c == '\t'

/-- Whether a character is a letter, a digit, a hyphen or an underscore, all of ASCII. -/
def isWord (c : Char) : Bool := c.isAlphanum || c == '-' || c == '_'

/-- Whether a text is over or goes on with a line break. -/
def startsWithBreak (text : List Char) : Bool := text.head?.all isBreak

/-- Whether a text is over or goes on with a blank or a line break. -/
def startsWithSpace (text : List Char) : Bool := text.head?.all fun c => isBlank c || isBreak c

/-- Whether a line begins with the mark between documents. -/
def isDocumentMark : List Char → Bool
  | '-' :: '-' :: '-' :: rest => startsWithSpace rest
  | '.' :: '.' :: '.' :: rest => startsWithSpace rest
  | _ => false

/-! ## Places -/

/-- **A place in a text.** -/
structure Mark where
  index : Nat
  line : Nat
  column : Nat
  deriving DecidableEq, Repr, Inhabited

/-- The place after a character. -/
def Mark.after (m : Mark) (c : Char) : Mark :=
  if isBreak c then ⟨m.index + 1, m.line + 1, 0⟩ else ⟨m.index + 1, m.line, m.column + 1⟩

/-- **A place with the text from there on.** -/
structure Cursor where
  rest : List Char
  mark : Mark
  deriving Repr, Inhabited

namespace Cursor

/-- One character further. -/
def advance (c : Cursor) : Cursor :=
  match c.rest with
  | [] => c
  | x :: rest => ⟨rest, c.mark.after x⟩

/-- Some characters further. -/
def skip (c : Cursor) : Nat → Cursor
  | 0 => c
  | n + 1 => c.advance.skip n

/-- The characters in front that satisfy a test, and the place after them. -/
def span (c : Cursor) (test : Char → Bool) : List Char × Cursor := go c.rest c.mark
where
  /-- The same on text and mark. -/
  go : List Char → Mark → List Char × Cursor
    | [], m => ([], ⟨[], m⟩)
    | x :: rest, m =>
      if test x then
        let (taken, after) := go rest (m.after x)
        (x :: taken, after)
      else ([], ⟨x :: rest, m⟩)

/-- The place after the characters in front that satisfy a test. -/
def skipWhile (c : Cursor) (test : Char → Bool) : Cursor := (c.span test).2

end Cursor

/-! ## Texts -/

/-- Line breaks in one form: a carriage return with or without a line feed, and the next-line control, become a
    line feed. -/
def normaliseBreaks : List Char → List Char
  | [] => []
  | '\r' :: '\n' :: rest => '\n' :: normaliseBreaks rest
  | '\r' :: rest => '\n' :: normaliseBreaks rest
  | '\u0085' :: rest => '\n' :: normaliseBreaks rest
  | c :: rest => c :: normaliseBreaks rest

/-- **The beginning of a text,** if all its characters are allowed. -/
def Cursor.ofText? (text : String) : Option Cursor :=
  let chars := text.toList
  if chars.all isAllowed then some ⟨normaliseBreaks chars, ⟨0, 0, 0⟩⟩ else none

end RootFold.Yaml
