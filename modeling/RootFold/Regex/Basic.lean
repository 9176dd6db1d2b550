import RootFold.Regex.Meaning
import RootFold.Regex.Reader

/-!
# `RootFold.Regex.Basic` — finding regular expressions in texts

## Contents
- **Expressions.** `Regex`, `Regex.read`, and `Refusal`, why a text is none.
- **Occurrences.** `Regex.occursIn`.
-/

namespace RootFold

/-! ## Expressions -/

/-- **A regular expression.** -/
structure Regex where
  expression : Regex.Expression Regex.Leaf

namespace Regex

/-- **Why a text is no regular expression.** -/
inductive Refusal where
  | faulty (pattern : String) (fault : Fault)
  | tooLarge
  deriving Repr

/-- How a refusal is told. -/
def Refusal.message : Refusal → String
  | faulty pattern fault => fault.report pattern
  | tooLarge => s!"Compiled regex exceeds size limit of {sizeLimit} bytes."

/-- **The regular expression of a text.** All of it is read before anything of it gets a meaning. -/
def read (pattern : String) : Except Refusal Regex :=
  match (do (← Tree.read pattern).meaning {} : Except Fault (Expression Leaf × Flags)) with
  | .error fault => .error (.faulty pattern fault)
  | .ok (expression, _) => if sizeLimit < expression.size then .error .tooLarge else .ok ⟨expression⟩

/-! ## Occurrences -/

/-- The number whose bits are given, the lowest first. -/
def ofBits (bits : List Bool) : Nat := bits.foldr (fun b n => 2 * n + b.toNat) 0

/-- What stands before and after each place of a text, after something that stands in front. -/
def neighbours (before : Option Char) : List Char → List (Option Char × Option Char)
  | [] => [(before, none)]
  | c :: rest => (before, some c) :: neighbours (some c) rest

/-- A leaf in a text. -/
def Leaf.mask (text : List Char) (leaf : Leaf) : Mask text.length :=
  match leaf.test with
  | .char contains => ⟨BitVec.ofNat _ (ofBits (text.map contains)), 1⟩
  | .place holds => ⟨BitVec.ofNat _ (ofBits ((neighbours none text).map fun (b, a) => holds b a)), 0⟩

/-- **Whether an expression matches somewhere in a text.** -/
def occursIn (r : Regex) (text : String) : Bool :=
  let text := text.toList
  (r.expression.map (Leaf.mask text)).reach (BitVec.allOnes _) != 0

end Regex

end RootFold
