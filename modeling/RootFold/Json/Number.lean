import RootFold.Json.Value

/-!
# `RootFold.Json.Number` — the numbers of JSON texts

An integer that fits 64 bits is kept as it is. Any other number becomes a floating-point number: its leading
digits, as many as fit 64 bits, are scaled by the power of ten that is left, one rounding for each step of the
scaling. A number may be too large for that.

## Contents
- **Grammar.** `Numeral.read?` splits a text into a numeral and the rest.
- **Values.** `Numeral.value`.
-/

namespace RootFold.Json

open Decimal

/-- **A number as it is spelled.** -/
structure Numeral where
  negative : Bool
  whole : List Char
  /-- The digits after the point, if there is one. -/
  fraction : Option (List Char)
  /-- The exponent, if there is one: whether it is negative, and its digits. -/
  exponent : Option (Bool × List Char)
  deriving Repr

/-- The digits at the front of a text and the rest. -/
def spanDigits (text : List Char) : List Char × List Char := (text.takeWhile Char.isDigit, text.dropWhile Char.isDigit)

namespace Numeral

/-- The digits in front of the point. A zero stands alone. -/
def readWhole? : List Char → Option (List Char × List Char)
  | '0' :: rest => if rest.head?.any Char.isDigit then none else some (['0'], rest)
  | text => match spanDigits text with
    | ([], _) => none
    | (digits, rest) => some (digits, rest)

/-- The point and the digits after it, of which there is at least one. -/
def readFraction? : List Char → Option (Option (List Char) × List Char)
  | '.' :: text => match spanDigits text with
    | ([], _) => none
    | (digits, rest) => some (some digits, rest)
  | text => some (none, text)

/-- The sign in front of the digits of an exponent. -/
def readSign : List Char → Bool × List Char
  | '+' :: text => (false, text)
  | '-' :: text => (true, text)
  | text => (false, text)

/-- The exponent, which has at least one digit. -/
def readExponent? (text : List Char) : Option (Option (Bool × List Char) × List Char) :=
  match text with
  | [] => some (none, [])
  | c :: after =>
    if c == 'e' || c == 'E' then
      let (negative, after) := readSign after
      match spanDigits after with
      | ([], _) => none
      | (digits, rest) => some (some (negative, digits), rest)
    else some (none, text)

/-- **The numeral a text begins with,** and the rest. -/
def read? (text : List Char) : Option (Numeral × List Char) := do
  let (negative, text) := match text with
    | '-' :: rest => (true, rest)
    | _ => (false, text)
  let (whole, text) ← readWhole? text
  let (fraction, text) ← readFraction? text
  let (exponent, text) ← readExponent? text
  return (⟨negative, whole, fraction, exponent⟩, text)

/-! ## Values -/

/-- The largest unsigned integer of 64 bits. -/
def wordMax : Nat := Nat.pow 2 64 - 1

/-- The largest exponent that is counted. -/
def exponentMax : Nat := Nat.pow 2 31 - 1

/-- A digit's value. -/
def digitValue (c : Char) : Nat := c.toNat - '0'.toNat

/-- **As many digits as fit,** added to a significand, and the digits that are left. -/
def takeDigits (limit : Nat) (significand : Nat) : List Char → Nat × List Char
  | [] => (significand, [])
  | c :: rest =>
    let next := significand * 10 + digitValue c
    if next ≤ limit then takeDigits limit next rest else (significand, c :: rest)

/-- The largest power of ten by which a number is scaled in one step. -/
def greatestStep : Nat := 308

/-- A power of ten as a floating-point number. -/
def powerOfTen (n : Nat) : Binary64 := (Binary64.ofNat? false (Nat.pow 10 n)).getD (.zero false)

/-- Divide by the greatest step as often as the exponent asks for, and then by what is left of it. A zero stays.
    `rounds` bounds the number of steps: each brings the number closer to zero. -/
def scaleDown (x : Binary64) (exponent : Nat) : (rounds : Nat) → Option Binary64
  | 0 => some x
  | rounds + 1 =>
    if exponent ≤ greatestStep then x.div? (powerOfTen exponent)
    else if x.isZero then some x
    else (x.div? (powerOfTen greatestStep)).bind fun x => scaleDown x (exponent - greatestStep) rounds

/-- **A significand scaled by a power of ten,** if the result is within reach. After four steps down nothing is
    left of any significand. -/
def scale? (significand : Nat) (exponent : Int) : Option Binary64 := do
  let x ← Binary64.ofNat? false significand
  if 0 ≤ exponent then
    if exponent.toNat ≤ greatestStep then x.mul? (powerOfTen exponent.toNat)
    else if x.isZero then some x
    else none
  else scaleDown x (-exponent).toNat 4

/-- The floating-point value of a numeral, without its sign. -/
def float? (n : Numeral) : Option Binary64 := do
  let (significand, left) := takeDigits wordMax 0 n.whole
  let fraction := n.fraction.getD []
  let (significand, unused) := takeDigits wordMax significand fraction
  let used := fraction.length - unused.length
  let start : Int := left.length - used
  match n.exponent with
  | none => scale? significand start
  | some (negative, digits) =>
    let (exponent, beyond) := takeDigits exponentMax 0 digits
    if beyond.isEmpty then scale? significand (if negative then start - exponent else start + exponent)
    else if significand ≠ 0 && !negative then none
    else some (.zero false)

/-- **The value of a numeral,** if it has one. A negative zero and a negative integer beyond 64 bits are
    floating-point numbers. -/
def value (n : Numeral) : Option Number :=
  let (significand, left) := takeDigits wordMax 0 n.whole
  let isInteger := n.fraction.isNone && n.exponent.isNone && left.isEmpty
  if isInteger && !n.negative then some (.integer significand)
  else if isInteger && significand ≠ 0 && significand ≤ Nat.pow 2 63 then some (.integer (-(significand : Int)))
  else n.float?.map fun x => .float { x with negative := n.negative }

end Numeral

end RootFold.Json
