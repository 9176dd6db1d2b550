import RootFold.Path.Basic

/-!
# `RootFold.Path.Nesting` — directories above and below one another

Nesting is counted in steps. The directory above a path is its parent, except that a single relative name has
none: the empty path is no directory that anyone declares.

## Contents
- **Upward.** `Path.parentDir?` and its closure `Path.ancestors`, nearest first.
- **Counting.** `Path.segmentCount`, `Path.nestingDepth?`, `Path.dropTrailing?`.
- **Covering.** `Path.Covers q p`: `q` is `p` itself or one of its ancestors.
-/

namespace RootFold.Path

/-! ## Upward -/

/-- **The directory above a path,** or none at the top. -/
def parentDir? (p : Path) : Option Path := p.parent?.filter (!·.isEmpty)

theorem parent?_of_parentDir? {p q : Path} (h : p.parentDir? = some q) : p.parent? = some q :=
  (Option.filter_eq_some_iff.1 h).1

theorem length_components_of_parentDir? {p q : Path} (h : p.parentDir? = some q) :
    q.components.length < p.components.length :=
  length_components_of_parent? (parent?_of_parentDir? h)

/-- **All directories above a path,** nearest first. -/
def ancestors (p : Path) : List Path :=
  match _h : p.parentDir? with
  | none => []
  | some q => q :: ancestors q
termination_by p.components.length
decreasing_by exact length_components_of_parentDir? _h

theorem ancestors_of_parentDir?_eq_none {p : Path} (h : p.parentDir? = none) : p.ancestors = [] := by
  rw [ancestors]
  split
  · rfl
  · next q hq => simp [h] at hq

theorem ancestors_of_parentDir?_eq_some {p q : Path} (h : p.parentDir? = some q) :
    p.ancestors = q :: q.ancestors := by
  rw [ancestors]
  split
  · next hn => simp [h] at hn
  · next q' hq => rw [h] at hq; rw [Option.some.inj hq]

/-! ## Counting -/

/-- The number of steps. -/
def segmentCount (p : Path) : Nat := p.components.length

/-- **How many steps `p` lies below `q`,** if it lies strictly below it. -/
def nestingDepth? (q p : Path) : Option Nat :=
  ((p.stripPrefix? q).map segmentCount).filter (0 < ·)

/-- **The path without its last `count` steps,** in plain spelling, if it has that many. -/
def dropTrailing? (p : Path) (count : Nat) : Option Path :=
  if p.segmentCount < count then none
  else some (ofComponents (p.components.take (p.segmentCount - count)))

/-! ## Covering -/

/-- `q` covers `p` when it is the same place or a directory above it. -/
def Covers (q p : Path) : Prop := (q == p) = true ∨ ∃ a ∈ p.ancestors, (q == a) = true

end RootFold.Path
