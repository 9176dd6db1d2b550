import RootFold.Text.Hexadecimal
import RootFold.Text.Visible

/-!
# `RootFold.Text.Quoted` — text between quotes, as it stands in messages

A quoted text shows every character: quotes and backslashes follow a backslash, the common controls have letters,
and any other character that does not show on its own stands as its code point.

## Contents
- **One character.** `escape`.
- **Texts.** `quote`.
-/

namespace RootFold.Text

/-- How a character stands between quotes. -/
def escape (c : Char) : List Char :=
  match c with
  | '\x00' => ['\\', '0']
  | '\t' => ['\\', 't']
  | '\r' => ['\\', 'r']
  | '\n' => ['\\', 'n']
  | '\x22' => ['\\', '\x22']
  | '\\' => ['\\', '\\']
  | c => if isVisible c then [c] else ['\\', 'u', '\x7b'] ++ hexDigits c.toNat ++ ['\x7d']

/-- **A text between quotes.** -/
def quote (s : String) : String := String.ofList ('\x22' :: s.toList.flatMap escape ++ ['\x22'])

end RootFold.Text
