import RootFold.Text.Hexadecimal
import RootFold.Yaml.Text

/-!
# `RootFold.Yaml.Scalar` — scalars as they are spelled

A scalar is spelled plainly, between single or double quotes, or as a block of lines, literal or folded. Each
spelling is read one character at a time; line breaks inside are folded by the rules of the spelling.

## Contents
- **Gaps.** `Gap`, what stands between two words of a plain or quoted scalar, and how it is folded.
- **Plain scalars.** `readPlain?`.
- **Quoted scalars.** `readQuoted?`.
- **Block scalars.** `readBlock?` with its header.
-/

namespace RootFold.Yaml

/-- **The spelling of a scalar.** -/
inductive ScalarStyle where
  | plain
  | singleQuoted
  | doubleQuoted
  | literal
  | folded
  deriving DecidableEq, Repr, Inhabited

/-! ## Gaps -/

/-- **What stands between two words.** Texts are kept last character first. -/
inductive Gap where
  | none
  | blanks (reversed : List Char)
  /-- Line breaks. The first is missing when it was escaped. -/
  | breaks (first : Option Char) (moreReversed : List Char)

namespace Gap

/-- Whether the gap reaches over a line break. -/
def hasBreak : Gap → Bool
  | breaks .. => true
  | _ => false

/-- Whether there is nothing between. -/
def isNone : Gap → Bool
  | none => true
  | _ => false

/-- A gap with one more blank; blanks after a line break do not count. -/
def addBlank (c : Char) : Gap → Gap
  | none => blanks [c]
  | blanks reversed => blanks (c :: reversed)
  | breaks first more => breaks first more

/-- A gap with one more line break; blanks before the first do not count. -/
def addBreak (c : Char) : Gap → Gap
  | breaks first more => breaks first (c :: more)
  | _ => breaks (some c) []

/-- **A text followed by a gap.** A single line feed becomes a space; of several the first is dropped. -/
def join (text : List Char) : Gap → List Char
  | none => text
  | blanks reversed => reversed ++ text
  | breaks .none more => more ++ text
  | breaks (some '\n') [] => ' ' :: text
  | breaks (some '\n') more => more ++ text
  | breaks (some c) more => more ++ c :: text

end Gap

/-! ## Plain scalars -/

/-- Whether a character gives structure inside brackets. -/
def isFlowMark (c : Char) : Bool := c == ',' || c == '[' || c == ']' || c == '\x7b' || c == '\x7d'

/-- Whether a colon has a space after it, or nothing. -/
def isKeyEnd : List Char → Bool
  | ':' :: rest => startsWithSpace rest
  | _ => false

/-- Whether a colon stands right in front of a mark of structure. -/
def isCrampedColon : List Char → Bool
  | ':' :: c :: _ => isFlowMark c || c == '?'
  | _ => false

/-- A scalar that was read: its text, whether it ended after a line break, and the place after it. -/
structure PlainScalar where
  text : List Char
  afterBreak : Bool
  cursor : Cursor

/-- Read on in a plain scalar. `text` is what was read, last character first. -/
def readPlainFrom (inFlow : Bool) (indent : Int) (text : List Char) (gap : Gap) :
    List Char → Mark → Option PlainScalar
  | [], m => some ⟨text.reverse, gap.hasBreak, ⟨[], m⟩⟩
  | c :: rest, m =>
    let done : Option PlainScalar := some ⟨text.reverse, gap.hasBreak, ⟨c :: rest, m⟩⟩
    if isBlank c then
      if c == '\t' && gap.hasBreak && (m.column : Int) < indent then none
      else readPlainFrom inFlow indent text (gap.addBlank c) rest (m.after c)
    else if isBreak c then readPlainFrom inFlow indent text (gap.addBreak c) rest (m.after c)
    else if !gap.isNone && ((!inFlow && (m.column : Int) < indent) || c == '#' ||
        (m.column == 0 && isDocumentMark (c :: rest))) then done
    else if inFlow && isCrampedColon (c :: rest) then none
    else if isKeyEnd (c :: rest) || (inFlow && isFlowMark c) then done
    else readPlainFrom inFlow indent (c :: gap.join text) .none rest (m.after c)

/-- **A plain scalar.** Outside brackets its later lines are indented by at least `indent`. -/
def readPlain? (inFlow : Bool) (indent : Int) (c : Cursor) : Option PlainScalar :=
  readPlainFrom inFlow indent [] .none c.rest c.mark

/-! ## Quoted scalars -/

/-- The character of a code point that digits in base sixteen spell. -/
def hexChar? (digits : List Char) : Option Char := do
  let n ← Text.hexNumber? digits
  if n.isValidChar then some (Char.ofNat n) else none

/-- The character that a letter stands for after a backslash. -/
def escapedChar? : Char → Option Char
  | '0' => some '\x00'
  | 'a' => some '\x07'
  | 'b' => some '\x08'
  | 't' => some '\t'
  | '\t' => some '\t'
  | 'n' => some '\n'
  | 'v' => some '\x0b'
  | 'f' => some '\x0c'
  | 'r' => some '\r'
  | 'e' => some '\x1b'
  | ' ' => some ' '
  | '\x22' => some '\x22'
  | '/' => some '/'
  | '\\' => some '\\'
  | 'N' => some '\u0085'
  | '_' => some '\u00a0'
  | 'L' => some '\u2028'
  | 'P' => some '\u2029'
  | _ => none

/-- Some characters of a line further. -/
def Mark.right (m : Mark) (n : Nat) : Mark := ⟨m.index + n, m.line, m.column + n⟩

/-- Read on in a scalar between double quotes. -/
def readDoubleFrom (text : List Char) (gap : Gap) : List Char → Mark → Option (List Char × Cursor)
  | [], _ => none
  | c :: rest, m =>
    if isBlank c then readDoubleFrom text (gap.addBlank c) rest (m.after c)
    else if isBreak c then readDoubleFrom text (gap.addBreak c) rest (m.after c)
    else if !gap.isNone && m.column == 0 && isDocumentMark (c :: rest) then none
    else
      let text := gap.join text
      if c == '\x22' then some (text.reverse, ⟨rest, m.after c⟩)
      else if c != '\\' then readDoubleFrom (c :: text) .none rest (m.after c)
      else
        match rest with
        | [] => none
        | 'x' :: h₁ :: h₂ :: rest => do
          readDoubleFrom ((← hexChar? [h₁, h₂]) :: text) .none rest (m.right 4)
        | 'u' :: h₁ :: h₂ :: h₃ :: h₄ :: rest => do
          readDoubleFrom ((← hexChar? [h₁, h₂, h₃, h₄]) :: text) .none rest (m.right 6)
        | 'U' :: h₁ :: h₂ :: h₃ :: h₄ :: h₅ :: h₆ :: h₇ :: h₈ :: rest => do
          readDoubleFrom ((← hexChar? [h₁, h₂, h₃, h₄, h₅, h₆, h₇, h₈]) :: text) .none rest (m.right 10)
        | e :: rest =>
          if isBreak e then readDoubleFrom text (.breaks none []) rest (m.after e)
          else do readDoubleFrom ((← escapedChar? e) :: text) .none rest (m.right 2)

/-- Read on in a scalar between single quotes. -/
def readSingleFrom (text : List Char) (gap : Gap) : List Char → Mark → Option (List Char × Cursor)
  | [], _ => none
  | c :: rest, m =>
    if isBlank c then readSingleFrom text (gap.addBlank c) rest (m.after c)
    else if isBreak c then readSingleFrom text (gap.addBreak c) rest (m.after c)
    else if !gap.isNone && m.column == 0 && isDocumentMark (c :: rest) then none
    else
      let text := gap.join text
      if c != '\x27' then readSingleFrom (c :: text) .none rest (m.after c)
      else
        match rest with
        | '\x27' :: rest => readSingleFrom ('\x27' :: text) .none rest (m.right 2)
        | rest => some (text.reverse, ⟨rest, m.after c⟩)

/-- **A quoted scalar,** from its opening quote on: its text and the place after it. -/
def readQuoted? (c : Cursor) : Option (List Char × Cursor) :=
  match c.rest with
  | '\x22' :: rest => readDoubleFrom [] .none rest (c.mark.right 1)
  | '\x27' :: rest => readSingleFrom [] .none rest (c.mark.right 1)
  | _ => none

/-! ## Block scalars -/

/-- What becomes of the line breaks at the end of a block. -/
inductive Chomping where
  | strip
  | clip
  | keep
  deriving DecidableEq, Repr

/-- The chomping that a sign asks for. -/
def Chomping.ofSign? : Char → Option Chomping
  | '-' => some .strip
  | '+' => some .keep
  | _ => none

/-- **The header of a block:** its chomping and, if given, its indentation. -/
structure BlockHeader where
  chomping : Chomping
  indentation : Option Nat

/-- The indentation that a digit asks for. A zero is refused. -/
def indentationDigit? (c : Char) : Option Nat := if c == '0' then none else some (c.toNat - '0'.toNat)

/-- The signs of a header, in either order, and the place after them. -/
def readIndicators? (c : Cursor) : Option (BlockHeader × Cursor) :=
  match c.rest with
  | x :: rest =>
    match Chomping.ofSign? x with
    | some chomping =>
      match rest with
      | d :: _ =>
        if d.isDigit then (indentationDigit? d).map fun n => (⟨chomping, some n⟩, c.skip 2)
        else some (⟨chomping, none⟩, c.skip 1)
      | [] => some (⟨chomping, none⟩, c.skip 1)
    | none =>
      if x.isDigit then do
        let n ← indentationDigit? x
        match rest.head?.bind Chomping.ofSign? with
        | some chomping => return (⟨chomping, some n⟩, c.skip 2)
        | none => return (⟨.clip, some n⟩, c.skip 1)
      else some (⟨.clip, none⟩, c)
  | [] => some (⟨.clip, none⟩, c)

/-- The place after the blanks and the comment that a line may end with, if nothing else follows. -/
def skipLineEnd? (c : Cursor) : Option Cursor :=
  let c := c.skipWhile isBlank
  let c := if c.rest.head? == some '#' then c.skipWhile (!isBreak ·) else c
  if startsWithBreak c.rest then some c else none

/-- **A block while it is read.** Texts are kept last character first. -/
structure Block where
  isLiteral : Bool
  chomping : Chomping
  /-- The indentation, once it is known. -/
  indent : Option Nat
  /-- The least indentation that can be found out. -/
  leastIndent : Nat
  /-- The deepest column that was reached while the indentation was not known. -/
  deepest : Nat
  text : List Char
  /-- The line break that ended the last line. -/
  ending : Option Char
  /-- The line breaks of empty lines after it. -/
  emptyLines : List Char
  /-- Whether the last line began with a blank. -/
  beganBlank : Bool

namespace Block

/-- Whether a column is still in front of the indentation. -/
def isBefore (b : Block) (column : Nat) : Bool := b.indent.all (column < ·)

/-- The block with its indentation found out. -/
def settle (b : Block) : Block :=
  match b.indent with
  | some _ => b
  | none => { b with indent := some (max b.deepest b.leastIndent) }

/-- **The block at the beginning of a line with text.** Between two lines of a folded block that do not begin
    with a blank, a single line feed becomes a space, and of several the first is dropped. -/
def beginLine (b : Block) (c : Char) : Block :=
  let ending := b.ending.toList
  let joined :=
    if !b.isLiteral && b.ending == some '\n' && !b.beganBlank && !isBlank c then
      if b.emptyLines.isEmpty then [' '] else []
    else ending
  { b with text := b.emptyLines ++ joined ++ b.text, ending := none, emptyLines := [], beganBlank := isBlank c }

/-- The text of a block that is over. -/
def finish (b : Block) : List Char :=
  let ending := if b.chomping == .strip then [] else b.ending.toList
  let emptyLines := if b.chomping == .keep then b.emptyLines else []
  (emptyLines ++ ending ++ b.text).reverse

end Block

/-- Read on in a block, in the margin of a line or inside it. -/
def readBlockFrom (b : Block) (inLine : Bool) : List Char → Mark → Option (List Char × Cursor)
  | [], m => some (b.finish, ⟨[], m⟩)
  | c :: rest, m =>
    if inLine then
      if isBreak c then readBlockFrom { b with ending := some c } false rest (m.after c)
      else readBlockFrom { b with text := c :: b.text } true rest (m.after c)
    else if b.isBefore m.column && c == ' ' then readBlockFrom b false rest (m.after c)
    else if b.isBefore m.column && c == '\t' then none
    else
      let b := { b with deepest := max b.deepest m.column }
      if isBreak c then readBlockFrom { b with emptyLines := c :: b.emptyLines } false rest (m.after c)
      else
        let b := b.settle
        if b.indent == some m.column then
          readBlockFrom { b.beginLine c with text := c :: (b.beginLine c).text } true rest (m.after c)
        else some (b.finish, ⟨c :: rest, m⟩)

/-- **A block scalar,** from its first sign on, below a collection at column `indent`. -/
def readBlock? (indent : Int) (isLiteral : Bool) (c : Cursor) : Option (List Char × Cursor) := do
  let (header, c) ← readIndicators? c.advance
  let c ← skipLineEnd? c
  let c := c.advance
  let block : Block := {
    isLiteral, chomping := header.chomping
    indent := header.indentation.map fun n => (max indent 0).toNat + n
    leastIndent := max (indent + 1).toNat 1
    deepest := 0, text := [], ending := none, emptyLines := [], beganBlank := false }
  readBlockFrom block false c.rest c.mark

end RootFold.Yaml
