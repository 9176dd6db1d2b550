import RootFold.Text.Hexadecimal

/-!
# `RootFold.Unicode.CodeRanges` — sets of characters as ranges of code points

A property of characters is given by the ranges of code points that have it, ascending and apart from each other.
The tables write them as text: numbers in base sixteen, with a hyphen between the first and the last of a range.

## Contents
- **Sets.** `CodeRanges`, `CodeRanges.contains` by bisection.
- **Tables.** `CodeRanges.ofText`.
-/

namespace RootFold.Unicode

/-- **A set of code points:** first and last of each range, ascending. -/
structure CodeRanges where
  ranges : Array (Nat × Nat)
  deriving DecidableEq, Repr, Inhabited

namespace CodeRanges

/-! ## Sets -/

/-- Whether a number lies in one of the ranges from `low` up to before `high`, by bisection. -/
def liesWithin (ranges : Array (Nat × Nat)) (n low high : Nat) : Bool :=
  if low < high then
    let middle := (low + high) / 2
    match ranges[middle]? with
    | none => false
    | some (first, last) =>
      if n < first then liesWithin ranges n low middle
      else if last < n then liesWithin ranges n (middle + 1) high
      else true
  else false
termination_by high - low
decreasing_by
  · omega
  · omega

/-- **Whether a character is in a set.** -/
def contains (r : CodeRanges) (c : Char) : Bool := liesWithin r.ranges c.toNat 0 r.ranges.size

/-- How many ranges there are. -/
def size (r : CodeRanges) : Nat := r.ranges.size

/-! ## Tables -/

/-- **A table while it is read:** the ranges that are done, the first number of a range that is not, and the number
    that is being read. -/
structure Draft where
  ranges : Array (Nat × Nat) := #[]
  first : Option Nat := none
  number : Option Nat := none

namespace Draft

/-- The draft with the range that is being read. -/
def close (d : Draft) : Draft :=
  match d.number with
  | none => d
  | some n => ⟨d.ranges.push (d.first.getD n, n), none, none⟩

/-- The draft after one more character of the table. -/
def step (d : Draft) (c : Char) : Draft :=
  match Text.hexDigit? c with
  | some digit => { d with number := some (d.number.getD 0 * 16 + digit) }
  | none => if c == '-' then { d with first := d.number, number := none } else d.close

end Draft

/-- **The ranges of a table.** -/
def ofText (table : String) : CodeRanges := ⟨(table.toList.foldl Draft.step {}).close.ranges⟩

example : ofText "9-d 20 1f1e6-1f1ff" = ⟨#[(0x9, 0xd), (0x20, 0x20), (0x1f1e6, 0x1f1ff)]⟩ := by decide

end CodeRanges

end RootFold.Unicode
