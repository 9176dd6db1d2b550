import RootFold.Yaml.Node
import RootFold.Decimal.Layout

/-!
# `RootFold.Yaml.Resolution` — what scalars stand for

A plain scalar without a tag stands for nothing, a truth value, an integer, a floating-point number or a text,
whichever its spelling fits first, and so does one with a tag of the document's own. A tag of the core schema asks
for one of these; any other scalar is a text.

## Contents
- **Spellings.** `isNullWord`, `truthValue?`, `integer?`, `float?`.
- **Meanings.** `Meaning`, `plainMeaning`, `Scalar.meaning`.
-/

namespace RootFold.Yaml

open Decimal

/-! ## Spellings -/

/-- Whether a word stands for nothing. -/
def isNullWord (word : String) : Bool := ["null", "Null", "NULL", "~"].contains word

/-- The truth value that a word stands for. -/
def truthValue? (word : String) : Option Bool :=
  if ["true", "True", "TRUE"].contains word then some true
  else if ["false", "False", "FALSE"].contains word then some false
  else none

/-- Whether there is a sign in front. -/
def startsWithSign (word : List Char) : Bool := word.head?.any fun c => c == '+' || c == '-'

/-- **Digits that are no number:** a zero in front of more digits makes a text of them. -/
def isPaddedNumber (word : List Char) : Bool :=
  match if startsWithSign word then word.tail else word with
  | '0' :: d :: rest => (d :: rest).all Char.isDigit
  | _ => false

/-- The natural that digits of a base spell. There must be some. -/
def natural? (base : Nat) (digits : List Char) : Option Nat :=
  if digits.isEmpty then none
  else digits.foldlM (fun n c => (Text.hexDigit? c).bind fun d => if d < base then some (n * base + d) else none) 0

/-- The bases that digits can be given in after a zero and a letter. -/
def bases : List (Char × Nat) := [('x', 16), ('o', 8), ('b', 2)]

/-- The natural that digits spell after a zero and a letter for their base. -/
def basedNatural? : List Char → Option Nat
  | '0' :: letter :: digits => (bases.find? (·.1 == letter)).bind fun (_, base) => natural? base digits
  | _ => none

/-- The size of an integer without a sign or with a plus sign. -/
def positive? (word : List Char) : Option Nat :=
  let body := if word.head? == some '+' then word.tail else word
  basedNatural? body <|> if isPaddedNumber word then none else natural? 10 body

/-- The size of an integer with a minus sign. -/
def negative? (word : List Char) : Option Nat :=
  match word with
  | '-' :: body => basedNatural? body <|> if isPaddedNumber word then none else natural? 10 body
  | _ => none

/-- **The integer that a word spells,** if 128 bits hold it. -/
def integer? (word : List Char) : Option Int :=
  match positive? word, negative? word with
  | some n, _ => if n < Nat.pow 2 128 then some n else none
  | none, some n => if n ≤ Nat.pow 2 127 then some (-(n : Int)) else none
  | none, none => none

/-- Digits in front, and the rest. -/
def spanDigits (text : List Char) : List Char × List Char := (text.takeWhile Char.isDigit, text.dropWhile Char.isDigit)

/-- The exponent of a decimal, if what is left is one or nothing. -/
def exponent? : List Char → Option Int
  | [] => some 0
  | e :: rest =>
    if e == 'e' || e == 'E' then
      let digits := if startsWithSign rest then rest.tail else rest
      (natural? 10 digits).map fun n => if rest.head? == some '-' then -(n : Int) else n
    else none

/-- **The floating-point number nearest to digits with a power of ten,** if it is finite. Far away from all
    numbers of the format the digits do not matter. -/
def nearest? (negative : Bool) (digits : Nat) (power : Int) : Option Binary64 :=
  let top := (decimalLength digits : Int) + power
  if digits = 0 || top < -330 then some (.zero negative)
  else if 310 < top then none
  else if 0 ≤ power then Binary64.ofRatio? negative (digits * Nat.pow 10 power.toNat) 1
  else Binary64.ofRatio? negative digits (Nat.pow 10 (-power).toNat)

/-- The finite number that a decimal spells, with digits before or after the point, or both. -/
def decimal? (word : List Char) : Option Binary64 := do
  let body := if startsWithSign word then word.tail else word
  let (whole, rest) := spanDigits body
  let (fraction, rest) := match rest with
    | '.' :: after => spanDigits after
    | rest => ([], rest)
  let digits ← natural? 10 (whole ++ fraction)
  let exponent ← exponent? rest
  nearest? (word.head? == some '-') digits (exponent - fraction.length)

/-- A floating-point number, which may be none of the finite ones. -/
inductive FloatValue where
  | finite (value : Binary64)
  | infinite (negative : Bool)
  | notANumber
  deriving DecidableEq, Repr

/-- Floating-point numbers are written out, however long, and of two nearest decimals the greater one is taken. -/
def numberLayout : Layout := ⟨none, none, false, .upward⟩

/-- How a floating-point number is told. -/
def FloatValue.message : FloatValue → String
  | finite value => numberLayout.write value
  | infinite negative => if negative then "-inf" else "inf"
  | notANumber => "NaN"

/-- The floating-point number that a word spells. -/
def float? (word : String) : Option FloatValue :=
  if [".inf", ".Inf", ".INF", "+.inf", "+.Inf", "+.INF"].contains word then some (.infinite false)
  else if ["-.inf", "-.Inf", "-.INF"].contains word then some (.infinite true)
  else if [".nan", ".NaN", ".NAN"].contains word then some .notANumber
  else (decimal? word.toList).map .finite

/-! ## Meanings -/

/-- **What a scalar stands for.** -/
inductive Meaning where
  | nothing
  | boolean (value : Bool)
  | integer (value : Int)
  | float (value : FloatValue)
  | text
  deriving DecidableEq, Repr

/-- **What a plain scalar without a tag stands for.** -/
def plainMeaning (word : String) : Meaning :=
  if word.isEmpty || isNullWord word then .nothing
  else
    match truthValue? word with
    | some b => .boolean b
    | none =>
      match integer? word.toList with
      | some n => .integer n
      | none =>
        if isPaddedNumber word.toList then .text
        else
          match float? word with
          | some x => .float x
          | none => .text

/-- What a scalar stands for by its spelling: any but a plain one is a text. -/
def Scalar.spelledMeaning (s : Scalar) : Meaning := if s.style == .plain then plainMeaning s.text else .text

/-- **What a scalar stands for,** or what its tag asks for in vain. -/
def Scalar.meaning (s : Scalar) : Except String Meaning :=
  match s.tag with
  | none => .ok s.spelledMeaning
  | some tag =>
    if tag == Tag.bool then
      match truthValue? s.text with
      | some b => .ok (.boolean b)
      | none => .error "a boolean"
    else if tag == Tag.int then
      match integer? s.text.toList with
      | some n => .ok (.integer n)
      | none => .error "an integer"
    else if tag == Tag.float then
      match float? s.text with
      | some x => .ok (.float x)
      | none => .error "a float"
    else if tag == Tag.null then
      if isNullWord s.text then .ok .nothing else .error "null"
    else if tag.isLocal then .ok s.spelledMeaning
    else .ok .text

end RootFold.Yaml
