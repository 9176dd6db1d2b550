import RootFold.Merge.Absorption

/-!
# `RootFold.Merge.Accumulator` — the folders that a pass holds

A pass starts with the declared folders, one per path, and replaces groups of them by the folder they merge into.
The accumulator is the current folder at each path.

## Contents
- **Accumulators.** `Accumulator`, a map from paths to folders.
- **Changes.** `Accumulator.register` refuses a second folder at a path; `Accumulator.replace` puts one folder in
  the place of several.
-/

namespace RootFold

/-- **The current folder at each path.** -/
abbrev Accumulator := PathMap Folder

namespace Accumulator

/-- Add a declared folder; a second one at the same path is an error. -/
def register (acc : Accumulator) (folder : Folder) : Except Error Accumulator :=
  if acc.contains folder.path then .error (.duplicateFolder folder.path)
  else .ok (acc.insert folder.path folder)

/-- Put one folder in the place of those it absorbs. -/
def replace (acc : Accumulator) (absorbed : List Folder) (merged : Folder) : Accumulator :=
  PathMap.insert (absorbed.foldl (fun acc child => acc.erase child.path) acc) merged.path merged

/-- **Every folder is held at its own path.** -/
def KeyedByPath (acc : Accumulator) : Prop := ∀ entry ∈ acc.entries, (entry.1 == entry.2.path) = true

end Accumulator

end RootFold
