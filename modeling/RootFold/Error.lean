import RootFold.Path.Basic
import RootFold.Folder.Kind
import RootFold.Glob.Pattern
import RootFold.File.Tree

/-!
# `RootFold.Error` — everything that can go wrong, and how it is reported

Two families: folders that cannot be reasoned about (`Inconsistency`, a duplicate path), and input that cannot
be read (the manifest, a file, a folder's text, a pattern). A missing namespace is no error; it only means that
nothing is merged.

## Contents
- **Causes.** `Inconsistency`, `Error`.
- **Wording.** `Inconsistency.message`, `Error.message`, and `Error.chain`, the wording of the error followed by
  that of what caused it.
-/

namespace RootFold

/-- **Folders that do not fit together.** -/
inductive Inconsistency where
  /-- Two folders of different kind or namespace flag were to become one. -/
  | incompatible (kind : FolderKind) (path : Path) (otherKind : FolderKind) (otherPath : Path)
  /-- Two folders of which neither contains the other were to become one. -/
  | unrelated (outer inner : Path)
  /-- A folder was to absorb one that is not below it. -/
  | notNested (child parent : Path)
  /-- A declared folder lies inside another. -/
  | nestedDeclaration (path parent : Path)
  /-- A walk was asked for a directory that is not in the graph. -/
  | notInGraph (root : Path)
  /-- A directory has no outcome yet. -/
  | notWalked (path : Path)
  /-- A directory without directories below it is no declared folder. -/
  | leafUndeclared (path : Path)
  /-- A directory with directories below it is itself a declared folder. -/
  | declaredAbove (path : Path)
  /-- A fault given in words. -/
  | stated (words : String)
  deriving Repr, Inhabited

/-- The wording of an inconsistency. -/
def Inconsistency.message : Inconsistency → String
  | incompatible kind path otherKind otherPath =>
    s!"cannot merge {kind} folder {path} with {otherKind} folder {otherPath}"
  | unrelated outer inner => s!"cannot merge unrelated folders {outer} and {inner}"
  | notNested child parent => s!"{child} is not nested under {parent}"
  | nestedDeclaration path parent => s!"{path} is declared inside declared folder {parent}"
  | notInGraph root => s!"{root} is not in the ancestry graph"
  | notWalked path => s!"{path} was not walked"
  | leafUndeclared path => s!"leaf directory {path} has no declared folder"
  | declaredAbove path => s!"{path} is declared as a folder but also contains declared folders"
  | stated words => words

/-- **An error of the program.** -/
inductive Error where
  /-- The folders do not fit together. -/
  | inconsistent (cause : Inconsistency)
  /-- Two folders that take part in merging share a path. -/
  | duplicateFolder (path : Path)
  /-- The manifest does not say what it should; the hint says how to mend it. -/
  | manifest (message : String) (hint : Option String)
  /-- A file cannot be read. -/
  | file (cause : FileError)
  /-- A folder's text cannot be read. -/
  | json (message : String)
  /-- A scan pattern is not well formed. -/
  | glob (cause : Glob.PatternError)
  deriving Repr, Inhabited

namespace Error

/-- **The wording of an error.** -/
def message : Error → String
  | inconsistent cause => s!"Internal consistency error: {cause.message}"
  | duplicateFolder path => s!"Duplicate folder path: {path}"
  | manifest message none => s!"Manifest parsing error: {message}"
  | manifest message (some hint) => s!"Manifest parsing error: {message}\n  hint: {hint}"
  | file cause => s!"I/O error: {cause.message}"
  | json message => s!"JSON error: {message}"
  | glob cause => s!"Glob pattern error: {cause.message}"

/-- The error and then, where it only passes another on, that other. -/
def chain : Error → List String
  | e@(file cause) => [e.message, cause.message]
  | e@(json message) => [e.message, message]
  | e@(glob cause) => [e.message, cause.message]
  | e => [e.message]

end Error

end RootFold
