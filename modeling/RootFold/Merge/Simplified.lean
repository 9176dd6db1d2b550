import RootFold.Merge.Accumulator

/-!
# `RootFold.Merge.Simplified` — the result of a pass

The excluded folders and what the others were merged into, sorted by path; where an excluded folder shares its
path with another, the other comes first.

## Contents
- **Results.** `Simplified` with `get?`, and its two parts, `merged` and `excluded`.
- **Assembly.** `Simplified.assemble`.
-/

namespace RootFold

/-- **The folders after a pass.** -/
structure Simplified where
  folders : List Folder
  deriving Inhabited

namespace Simplified

/-- Not after, by path and then by kind. -/
def folderLe (a b : Folder) : Bool :=
  decide (a.path < b.path) || (a.path == b.path && decide (a.kind.rank ≤ b.kind.rank))

/-- **Put excluded folders and merged ones together.** Folders that agree on path and kind keep their order. -/
def assemble (excluded : List Folder) (acc : Accumulator) : Simplified :=
  ⟨(excluded ++ acc.values).mergeSort folderLe⟩

/-- The number of folders. -/
def size (s : Simplified) : Nat := s.folders.length

/-- Whether there is no folder. -/
def isEmpty (s : Simplified) : Bool := s.folders.isEmpty

/-- The first folder at a path. -/
def get? (s : Simplified) (p : Path) : Option Folder := s.folders.find? (·.path == p)

/-- The folders that are not excluded. -/
def merged (s : Simplified) : List Folder := s.folders.filter (!·.isExcluded)

/-- The folders that are excluded. -/
def excluded (s : Simplified) : List Folder := s.folders.filter (·.isExcluded)

end Simplified

end RootFold
