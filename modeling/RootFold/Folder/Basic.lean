import RootFold.Path.Nesting
import RootFold.Path.Map
import RootFold.Error

/-!
# `RootFold.Folder.Basic` — declared folders and how two of them become one

A folder is a directory with a purpose, a flag that says whether its packages take a namespace prefix, and the
files it was declared with. Two folders that agree on purpose and flag, one of them at or below the other, merge
into one at the upper path with the files of both.

## Contents
- **Folders.** `Folder`, `==` by steps of paths, `Folder.representative`.
- **Merging.** `Folder.isCompatibleWith`, `Folder.merge`.
-/

namespace RootFold

/-- **A declared folder.** -/
structure Folder where
  path : Path
  kind : FolderKind
  /-- Whether packages below the folder take a namespace prefix. -/
  wantsNamespacePrefix : Bool
  /-- The files known to be in the folder. -/
  members : PathSet := .empty
  deriving Inhabited

namespace Folder

/-- Whether packages of a folder of this kind take a prefix unless told otherwise. -/
def defaultPrefixFlag (kind : FolderKind) : Bool := kind != .exclude

/-- A folder of a kind, with the flag that is usual for it and no members. -/
def ofKind (kind : FolderKind) (path : Path) : Folder := ⟨path, kind, defaultPrefixFlag kind, .empty⟩

instance : BEq Folder where
  beq a b := a.path == b.path && a.kind == b.kind && a.wantsNamespacePrefix == b.wantsNamespacePrefix &&
    a.members == b.members

/-- Whether the folder is kept out of the project. -/
def isExcluded (f : Folder) : Bool := f.kind == .exclude

/-- The file name that stands for a folder without members. -/
def placeholder : Path := .ofText "notfound"

/-- **The file through which the folder's namespace is looked up:** its first member, or a placeholder. -/
def representative (f : Folder) : Path := (f.members.toList.head?).getD (f.path.join placeholder)

/-- The same kind of folder at another path, without members. -/
def relocated (f : Folder) (path : Path) : Folder := { f with path, members := .empty }

/-- The folder without a namespace prefix. -/
def withoutPrefix (f : Folder) : Folder := { f with wantsNamespacePrefix := false }

instance : ToString Folder := ⟨fun f => s!"{f.kind} {f.path}"⟩

/-! ## Merging -/

/-- Whether two folders agree on purpose and namespace flag. -/
def isCompatibleWith (a b : Folder) : Bool :=
  a.kind == b.kind && a.wantsNamespacePrefix == b.wantsNamespacePrefix

/-- **Two folders as one,** at the path with fewer steps, which must begin the other. -/
def merge (a b : Folder) : Except Error Folder :=
  if !a.isCompatibleWith b then .error (.inconsistent (.incompatible a.kind a.path b.kind b.path))
  else
    let (outer, inner) := if a.path.segmentCount ≤ b.path.segmentCount then (a, b) else (b, a)
    if !inner.path.startsWith outer.path then .error (.inconsistent (.unrelated outer.path inner.path))
    else .ok { a with path := outer.path, members := a.members.union b.members }

end Folder

end RootFold
