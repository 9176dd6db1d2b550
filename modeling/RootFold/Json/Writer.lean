import RootFold.Json.Value
import RootFold.Text.Quoted

/-!
# `RootFold.Json.Writer` — JSON values as text

Two layouts: in one line without blanks, or with one item or field on each line, indented by two more spaces than
what it is in. Empty containers are written in one piece in both.

## Contents
- **Strings.** `Json.quoteString`.
- **Values.** `Json.compact`, `Json.pretty`.
-/

namespace RootFold.Json

/-- How a character stands in a string: quotes, backslashes and controls are escaped, all else is as it is. -/
def escapeChar : Char → List Char
  | '\x22' => ['\\', '\x22']
  | '\\' => ['\\', '\\']
  | '\x08' => ['\\', 'b']
  | '\x0c' => ['\\', 'f']
  | '\n' => ['\\', 'n']
  | '\r' => ['\\', 'r']
  | '\t' => ['\\', 't']
  | c =>
    if c < ' ' then
      let digits := Text.hexDigits c.toNat
      ['\\', 'u'] ++ List.replicate (4 - digits.length) '0' ++ digits
    else [c]

/-- **A string between quotes.** -/
def quoteString (s : String) : String := String.ofList ('\x22' :: s.toList.flatMap escapeChar ++ ['\x22'])

/-- A number. -/
def Number.write : Number → String
  | integer n => toString n
  | float x => numberLayout.write x

/-- Items between brackets, one on each line at an indentation, or all in one line. -/
def enclose (opening closing : String) (indentation : Option Nat) (items : List String) : String :=
  if items.isEmpty then opening ++ closing
  else
    match indentation with
    | none => opening ++ ",".intercalate items ++ closing
    | some n =>
      let margin := "\n" ++ String.ofList (List.replicate (n + 2) ' ')
      opening ++ margin ++ ("," ++ margin).intercalate items ++
        "\n" ++ String.ofList (List.replicate n ' ') ++ closing

mutual

/-- A value, its lines indented, or in one line. -/
def write (indentation : Option Nat) : Json → String
  | null => "null"
  | boolean b => toString b
  | number n => n.write
  | string s => quoteString s
  | array items => enclose "[" "]" indentation (writeItems (indentation.map (· + 2)) items)
  | object fields => enclose "\x7b" "\x7d" indentation (writeFields (indentation.map (· + 2)) fields)
  | halfPair => ""
  | outOfRange => ""
  | broken => ""

/-- The items of an array. -/
def writeItems (indentation : Option Nat) : List Json → List String
  | [] => []
  | item :: rest => write indentation item :: writeItems indentation rest

/-- The fields of an object. -/
def writeFields (indentation : Option Nat) : List (Json × Json) → List String
  | [] => []
  | (key, value) :: rest =>
    (write indentation key ++ (if indentation.isSome then ": " else ":") ++ write indentation value) ::
      writeFields indentation rest

end

/-- **A value in one line.** -/
def compact (value : Json) : String := write none value

/-- **A value with one item on each line.** -/
def pretty (value : Json) : String := write (some 0) value

end RootFold.Json
