/-!
# `RootFold.Decimal.Binary64` — finite binary floating-point numbers as exact values

A finite number of the 64-bit binary format is a sign, a significand below `2 ^ 53` and an exponent; its size is
`significand * 2 ^ exponent`, an exact fraction. Quotients are rounded to the nearest such number, and a tie goes
to the even significand.

## Contents
- **Numbers.** `Binary64`, `Binary64.ratio` as a pair of naturals.
- **Rounding.** `roundHalfEven`, `Binary64.ofRatio?`; a quotient too large for the format has no number.
- **Arithmetic.** `Binary64.mul?`, `Binary64.div?`, each rounded once.
-/

namespace RootFold.Decimal

/-- The quotient rounded to the nearest natural, a tie to the even one. -/
def roundHalfEven (num den : Nat) : Nat :=
  let q := num / den
  let twice := 2 * (num % den)
  if twice < den then q
  else if den < twice then q + 1
  else if q % 2 = 0 then q
  else q + 1

/-- **A finite number of the 64-bit binary format.** -/
structure Binary64 where
  negative : Bool
  significand : Nat
  exponent : Int
  deriving DecidableEq, Repr, Inhabited

namespace Binary64

/-- Significands are below this. -/
def significandLimit : Nat := Nat.pow 2 53

/-- The exponents of the smallest and of the largest numbers. -/
def leastExponent : Int := -1074
def greatestExponent : Int := 971

/-- The zero of a sign. -/
def zero (negative : Bool) : Binary64 := ⟨negative, 0, leastExponent⟩

/-- Whether the number is a zero. -/
def isZero (x : Binary64) : Bool := x.significand == 0

/-- The size of a number as a fraction. -/
def ratio (x : Binary64) : Nat × Nat :=
  if 0 ≤ x.exponent then (x.significand * Nat.pow 2 x.exponent.toNat, 1) else (x.significand, Nat.pow 2 (-x.exponent).toNat)

/-- The number nearest to `num / den` whose exponent is the given one, or the next if the significand would grow
    too large. -/
def atExponent (negative : Bool) (num den : Nat) (exponent : Int) : Binary64 :=
  let significand :=
    if 0 ≤ exponent then roundHalfEven num (den * Nat.pow 2 exponent.toNat)
    else roundHalfEven (num * Nat.pow 2 (-exponent).toNat) den
  if significand = significandLimit then ⟨negative, significandLimit / 2, exponent + 1⟩
  else ⟨negative, significand, exponent⟩

/-- **The number nearest to a quotient,** if the format reaches that far. -/
def ofRatio? (negative : Bool) (num den : Nat) : Option Binary64 :=
  if num = 0 ∨ den = 0 then some (zero negative)
  else
    let guess : Int := (num.log2 : Int) - den.log2 - 52
    let isLow : Bool :=
      if 0 ≤ guess then num < den * Nat.pow 2 guess.toNat * Nat.pow 2 52 else num * Nat.pow 2 (-guess).toNat < den * Nat.pow 2 52
    let x := atExponent negative num den (max leastExponent (if isLow then guess - 1 else guess))
    if greatestExponent < x.exponent then none else some x

/-- The number nearest to a natural, if the format reaches that far. -/
def ofNat? (negative : Bool) (n : Nat) : Option Binary64 := ofRatio? negative n 1

/-- The product, rounded once. -/
def mul? (x y : Binary64) : Option Binary64 :=
  ofRatio? (x.negative != y.negative) (x.ratio.1 * y.ratio.1) (x.ratio.2 * y.ratio.2)

/-- The quotient, rounded once. -/
def div? (x y : Binary64) : Option Binary64 :=
  ofRatio? (x.negative != y.negative) (x.ratio.1 * y.ratio.2) (x.ratio.2 * y.ratio.1)

end Binary64

end RootFold.Decimal
