import RootFold.Yaml.Resolution
import RootFold.Text.Quoted

/-!
# `RootFold.Yaml.Writer` — texts as YAML scalars

A text is written plainly when it then reads back as the same text, otherwise between single quotes, and between
double quotes when it holds characters that must be escaped. A text of several lines is written as a literal
block where that is possible. Lines are never folded.

## Contents
- **Characters.** `isPrintable`, `isLineBreak`.
- **Styles.** `fitsPlain`, `fitsSingle`, `fitsBlock`, and the choice `styleOf`.
- **Spellings.** `writeSingle`, `writeDouble`, `writeLiteral`.
- **Scalars.** `writeText`.
-/

namespace RootFold.Yaml.Writer

/-! ## Characters -/

/-- Whether a character is written as it is, wherever it may stand. -/
def isPrintable (c : Char) : Bool :=
  c == '\n' || (' ' ≤ c && c ≤ '~') || (0xA0 ≤ c.toNat && c.toNat ≤ 0xFFFD && c != '\ufeff') || 0x10000 ≤ c.toNat

/-- Whether a character breaks a line. -/
def isLineBreak (c : Char) : Bool := isBreak c || c == '\r' || c == '\u0085'

/-- Whether a text is over or goes on with a blank or a line break. -/
def endsWord (text : List Char) : Bool := text.head?.all fun c => isBlank c || isLineBreak c

/-! ## Styles -/

/-- Characters that begin something else than a plain scalar. -/
def opening : List Char :=
  ['#', ',', '[', ']', '\x7b', '\x7d', '&', '*', '!', '|', '>', '\x27', '\x22', '%', '@', '\x60']

/-- Whether a text begins like something else than a plain scalar. -/
def opensOtherwise : List Char → Bool
  | [] => false
  | c :: rest =>
    opening.contains c || ((c == '?' || c == ':' || c == '-') && endsWord rest) ||
      (c :: rest).take 3 == ['-', '-', '-'] || (c :: rest).take 3 == ['.', '.', '.']

/-- Whether something inside a text would end a plain scalar: a colon before a blank, or a hash after one. -/
def breaksPlain : List Char → Bool
  | [] => false
  | c :: rest =>
    (endsWord [c] && rest.head? == some '#') || (rest.head? == some ':' && endsWord rest.tail) || breaksPlain rest

/-- Whether two neighbours are such and such. -/
def hasPair (first second : Char → Bool) : List Char → Bool
  | a :: b :: rest => (first a && second b) || hasPair first second (b :: rest)
  | _ => false

/-- Whether every character is written as it is and no space stands before a line break. -/
def isClean (text : List Char) : Bool := text.all isPrintable && !hasPair (· == ' ') isLineBreak text

/-- Whether a text can be written between single quotes. -/
def fitsSingle (text : List Char) : Bool := isClean text && !hasPair isLineBreak (· == ' ') text

/-- Whether a text can be written as a block. -/
def fitsBlock (text : List Char) : Bool := isClean text && text.getLast? != some ' '

/-- Whether a text can be written plainly, if it then stands for itself. -/
def fitsPlain (text : List Char) : Bool :=
  fitsSingle text && !text.any isLineBreak && text.head? != some ' ' && text.getLast? != some ' ' &&
    !opensOtherwise text && !breaksPlain text

/-- Whether a plain scalar of this spelling stands for the text. -/
def standsForItself (s : String) : Bool := plainMeaning s == .text && !isPaddedNumber s.toList

/-- **The spelling of a text.** -/
def styleOf (s : String) : ScalarStyle :=
  let text := s.toList
  if text.contains '\n' then (if fitsBlock text then .literal else .doubleQuoted)
  else if standsForItself s && fitsPlain text then .plain
  else if fitsSingle text then .singleQuoted
  else .doubleQuoted

/-! ## Spellings -/

/-- As many spaces. -/
def spaces (n : Nat) : List Char := List.replicate n ' '

/-- A text whose lines, but for the first and the empty ones, are indented. -/
def indentLines (indent : Nat) (afterBreak : Bool) : List Char → List Char
  | [] => []
  | c :: rest =>
    if isLineBreak c then c :: indentLines indent true rest
    else (if afterBreak then spaces indent else []) ++ c :: indentLines indent false rest

/-- A text with every single quote twice. -/
def doubleQuotes (text : List Char) : List Char := text.flatMap fun c => if c == '\x27' then ['\x27', '\x27'] else [c]

/-- **A text between single quotes.** -/
def writeSingle (indent : Nat) (text : List Char) : List Char :=
  let last := if text.getLast?.any isLineBreak then spaces indent else []
  '\x27' :: indentLines indent false (doubleQuotes text) ++ last ++ ['\x27']

/-- The letter that stands for a character after a backslash. -/
def escapeLetter? : Char → Option Char
  | '\x00' => some '0'
  | '\x07' => some 'a'
  | '\x08' => some 'b'
  | '\t' => some 't'
  | '\n' => some 'n'
  | '\x0b' => some 'v'
  | '\x0c' => some 'f'
  | '\r' => some 'r'
  | '\x1b' => some 'e'
  | '\x22' => some '\x22'
  | '\\' => some '\\'
  | '\u0085' => some 'N'
  | '\u2028' => some 'L'
  | '\u2029' => some 'P'
  | _ => none

/-- A code point in base sixteen, with capital letters, in some width. -/
def codePoint (width : Nat) (c : Char) : List Char :=
  let digits := (Text.hexDigits c.toNat).map Char.toUpper
  List.replicate (width - digits.length) '0' ++ digits

/-- How a character stands between double quotes. Beyond four digits every character is written as it is. -/
def escape (c : Char) : List Char :=
  if isPrintable c && !isLineBreak c && c != '\x22' && c != '\\' then [c]
  else
    match escapeLetter? c with
    | some letter => ['\\', letter]
    | none =>
      if c.toNat ≤ 0xFF then '\\' :: 'x' :: codePoint 2 c else '\\' :: 'u' :: codePoint 4 c

/-- **A text between double quotes.** -/
def writeDouble (text : List Char) : List Char := '\x22' :: text.flatMap escape ++ ['\x22']

/-- The header of a literal block: its indentation, if the text does not show it, and what becomes of the line
    breaks at its end. -/
def literalHeader (text : List Char) : List Char :=
  let indentation := if text.head?.any fun c => c == ' ' || isLineBreak c then ['2'] else []
  let chomping := match text.reverse with
    | last :: before =>
      if !isLineBreak last then ['-'] else if before.head?.all isLineBreak then ['+'] else []
    | [] => ['-']
  '|' :: indentation ++ chomping

/-- **A text as a literal block.** -/
def writeLiteral (indent : Nat) (text : List Char) : List Char :=
  literalHeader text ++ '\n' :: indentLines indent true text

/-! ## Scalars -/

/-- **A text as a scalar and the end of its line.** Later lines are indented by `indent`. -/
def writeText (indent : Nat) (s : String) : String :=
  let text := s.toList
  match styleOf s with
  | .plain => s ++ "\n"
  | .singleQuoted => String.ofList (writeSingle indent text) ++ "\n"
  | .doubleQuoted => String.ofList (writeDouble text) ++ "\n"
  | _ => String.ofList (writeLiteral indent text) ++ (if text.getLast?.any isLineBreak then "" else "\n")

end RootFold.Yaml.Writer
