import RootFold.Folder.Basic

/-!
# `RootFold.Merge.Validity` — folders that can go through a pass

The folders that take part in merging must have different paths, and none may lie inside another. Excluded
folders are passed through untouched and are not checked.

## Contents
- **The test.** `validate`; a repeated path is found before a nested one.
-/

namespace RootFold

/-- The folders that take part in merging. -/
def declaredFolders (folders : List Folder) : List Folder := folders.filter (!·.isExcluded)

/-- The paths of the folders that take part in merging. -/
def declaredPaths (folders : List Folder) : List Path := (declaredFolders folders).map (·.path)

/-- The first path that repeats an earlier one. -/
def firstRepeated? : (seen paths : List Path) → Option Path
  | _, [] => none
  | seen, path :: rest => if seen.contains path then some path else firstRepeated? (path :: seen) rest

/-- The first path that lies inside another, with the nearest directory above it that is among the paths. -/
def firstNested? (paths : List Path) : Option (Path × Path) :=
  paths.findSome? fun path => (path.ancestors.find? paths.contains).map (path, ·)

/-- **Check that folders can go through a pass.** -/
def validate (folders : List Folder) : Except Error Unit :=
  let paths := declaredPaths folders
  match firstRepeated? [] paths with
  | some path => .error (.duplicateFolder path)
  | none =>
    match firstNested? paths with
    | some (path, parent) => .error (.inconsistent (.nestedDeclaration path parent))
    | none => .ok ()

end RootFold
