/-!
# `RootFold.Text.Hexadecimal` — digits in base sixteen

Letters of either case are read as digits; small ones are written.

## Contents
- **Reading.** `hexDigit?`, `hexNumber?`.
- **Writing.** `hexDigits`.
-/

namespace RootFold.Text

/-! ## Reading -/

/-- A digit in base sixteen. -/
def hexDigit? (c : Char) : Option Nat :=
  if c.isDigit then some (c.toNat - '0'.toNat)
  else if 'a' ≤ c && c ≤ 'f' then some (c.toNat - 'a'.toNat + 10)
  else if 'A' ≤ c && c ≤ 'F' then some (c.toNat - 'A'.toNat + 10)
  else none

/-- **The number that digits in base sixteen spell,** zero if there are none. -/
def hexNumber? (digits : List Char) : Option Nat :=
  digits.foldlM (fun n c => (hexDigit? c).map (n * 16 + ·)) 0

/-! ## Writing -/

/-- **The digits of a number in base sixteen.** -/
def hexDigits (n : Nat) : List Char := Nat.toDigits 16 n

end RootFold.Text
