import RootFold.Decimal.Binary64

/-!
# `RootFold.Decimal.Layout` — floating-point numbers in decimal

A number is written with the fewest digits that still tell it from its neighbours, and of those with the digits
nearest to it. Which of two equally near ones is taken, and where the digits stand, are choices of the format that
writes them.

## Contents
- **Digits.** `Binary64.shortest?` gives the digits as a natural and the power of ten they are multiplied by; `Tie`
  decides between two that are equally near.
- **Layout.** `Layout` says between which places of the decimal point a number is written out; `Layout.write`.
-/

namespace RootFold.Decimal

/-! ## Digits -/

/-- **Digits and a power of ten:** `digits * 10 ^ power`. -/
structure Digits where
  digits : Nat
  power : Int
  deriving DecidableEq, Repr

/-- **What is taken of two neighbours that are equally near:** the even one or the greater one. -/
inductive Tie where
  | toEven
  | upward
  deriving DecidableEq, Repr

/-- Whether the lesser neighbour is taken. -/
def Tie.takesLower (tie : Tie) (lower : Nat) : Bool :=
  match tie with
  | .toEven => lower % 2 == 0
  | .upward => false

/-- The length of a natural in decimal. -/
def decimalLength (n : Nat) : Nat := (toString n).length

/-- The fraction divided by a power of ten. -/
def scaleDown (num den : Nat) (power : Int) : Nat × Nat :=
  if 0 ≤ power then (num, den * Nat.pow 10 power.toNat) else (num * Nat.pow 10 (-power).toNat, den)

/-- The place of the leading digit: the power of ten at or below the fraction. -/
def leadingPower (num den : Nat) : Int :=
  let guess : Int := (decimalLength num : Int) - decimalLength den
  let (n, d) := scaleDown num den guess
  if n < d then guess - 1 else guess

namespace Binary64

/-- **What rounds to a number:** the numerators, over the given denominator, of the number itself and of the ends
    of the interval, and whether the ends belong to it. -/
structure Neighbourhood where
  low : Nat
  middle : Nat
  high : Nat
  den : Nat
  withEnds : Bool

/-- The neighbourhood of a number. Below a power of two the next number is half as far away. -/
def neighbourhood (x : Binary64) : Neighbourhood :=
  let below := if x.significand = significandLimit / 2 ∧ leastExponent < x.exponent then 1 else 2
  let unit : Int := x.exponent - 2
  let (times, den) := if 0 ≤ unit then (Nat.pow 2 unit.toNat, 1) else (1, Nat.pow 2 (-unit).toNat)
  ⟨(4 * x.significand - below) * times, 4 * x.significand * times, (4 * x.significand + 2) * times, den,
    x.significand % 2 = 0⟩

/-- Whether a decimal rounds to the number. -/
def Neighbourhood.contains (n : Neighbourhood) (d : Digits) : Bool :=
  let (num, den) := if 0 ≤ d.power then (d.digits * Nat.pow 10 d.power.toNat, 1) else (d.digits, Nat.pow 10 (-d.power).toNat)
  if n.withEnds then n.low * den ≤ num * n.den && num * n.den ≤ n.high * den
  else n.low * den < num * n.den && num * n.den < n.high * den

/-- The decimal nearest to the number with its last digit at a power of ten, if it rounds to the number. -/
def Neighbourhood.at? (n : Neighbourhood) (tie : Tie) (power : Int) : Option Digits :=
  let (num, den) := scaleDown n.middle n.den power
  let lower : Digits := ⟨num / den, power⟩
  let upper : Digits := ⟨num / den + 1, power⟩
  let lowerFirst := 2 * (num % den) < den || (2 * (num % den) == den && tie.takesLower lower.digits)
  ((if lowerFirst then [lower, upper] else [upper, lower]).filter n.contains).head?

/-- **The fewest digits that tell a number from its neighbours.** Seventeen are always enough. A zero has none. -/
def shortest? (x : Binary64) (tie : Tie) : Option Digits :=
  if x.isZero then none
  else
    let n := x.neighbourhood
    let top := leadingPower n.middle n.den
    (List.range 17).findSome? fun (more : Nat) => n.at? tie (top - more)

end Binary64

/-! ## Layout -/

/-- **Where the digits stand.** `point` counts the digits in front of the decimal point, and is negative when
    zeros follow it; a number is written out if its point lies between the bounds, otherwise with an exponent,
    which may have a plus sign. -/
structure Layout where
  leastPoint : Option Int
  greatestPoint : Option Int
  plusSign : Bool
  tie : Tie
  deriving Repr

namespace Layout

/-- Whether a number with this point is written out. -/
def writesOut (n : Layout) (point : Int) : Bool := n.leastPoint.all (· ≤ point) && n.greatestPoint.all (point ≤ ·)

/-- As many zeros. -/
def zeros (n : Nat) : List Char := List.replicate n '0'

/-- The digits with a decimal point among, before or behind them. -/
def writeOut (digits : List Char) (point : Int) : List Char :=
  if point ≤ 0 then '0' :: '.' :: zeros (-point).toNat ++ digits
  else
    let whole := digits.take point.toNat ++ zeros (point.toNat - digits.length)
    let fraction := digits.drop point.toNat
    whole ++ '.' :: (if fraction.isEmpty then ['0'] else fraction)

/-- The digits with an exponent. -/
def writeScaled (n : Layout) (digits : List Char) (point : Int) : List Char :=
  let exponent := (if n.plusSign && 1 ≤ point then ['+'] else []) ++ (toString (point - 1)).toList
  match digits with
  | [] => []
  | [d] => d :: 'e' :: exponent
  | d :: rest => d :: '.' :: rest ++ 'e' :: exponent

/-- The digits without the zeros at their end. -/
def stripZeros (digits : List Char) : List Char := (digits.reverse.dropWhile (· == '0')).reverse

/-- **A number in decimal,** always with a point or an exponent. -/
def write (n : Layout) (x : Binary64) : String :=
  let sign := if x.negative then "-" else ""
  match x.shortest? n.tie with
  | none => sign ++ "0.0"
  | some d =>
    let digits := (toString d.digits).toList
    let point : Int := digits.length + d.power
    let kept := stripZeros digits
    sign ++ String.ofList (if n.writesOut point then writeOut kept point else n.writeScaled kept point)

end Layout

end RootFold.Decimal
