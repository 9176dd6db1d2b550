import RootFold.Path.Basic

/-!
# `RootFold.File.Tree` — files and directories as a value

A `FileTree` is a file with its bytes or a directory with named entries. A `FileSystem` is a tree with a working
directory in it; a path is looked up in it step by step. The program reads nothing else, so a run is a function
of its file system.

## Contents
- **Trees.** `FileTree`, its entries, and `FileTree.files`: the files below, directory by directory, entries
  in the order of their names.
- **Failure.** `FileError` with the system's wording.
- **Looking up.** `FileSystem.find`, `FileSystem.isDirectory`, `FileSystem.readText`, `FileSystem.filesBelow`.
- **Filling.** `FileSystem.put`.
-/

namespace RootFold

/-- **A file or a directory.** -/
inductive FileTree where
  | file (content : ByteArray)
  | directory (entries : List (String × FileTree))
  deriving Inhabited

namespace FileTree

/-- The entry of a directory under a name. -/
def child? (name : String) : FileTree → Option FileTree
  | file _ => none
  | directory entries => (entries.find? (·.1 == name)).map (·.2)

/-- Whether the tree is a directory. -/
def isDirectory : FileTree → Bool
  | directory _ => true
  | file _ => false

/-- The tree at the end of a list of names. -/
def descend? : List String → FileTree → Option FileTree
  | [], t => some t
  | name :: rest, t => (t.child? name).bind (descend? rest)

/-- Put a tree into the entries of a directory, in place of one of that name. -/
def setEntry (name : String) (t : FileTree) : List (String × FileTree) → List (String × FileTree)
  | [] => [(name, t)]
  | (other, u) :: rest => if other == name then (name, t) :: rest else (other, u) :: setEntry name t rest

/-- **Put a tree at the end of a list of names,** making the directories on the way. -/
def insertAt (t : FileTree) : List String → FileTree → FileTree
  | [], _ => t
  | name :: rest, file _ => directory [(name, insertAt t rest (directory []))]
  | name :: rest, directory entries =>
    directory (setEntry name (insertAt t rest ((child? name (directory entries)).getD (directory []))) entries)

/-- Entries in the order of their names, compared by bytes. -/
def sortByName {α : Type} (entries : List (String × α)) : List (String × α) :=
  entries.mergeSort fun a b => !decide (b.1 < a.1)

mutual

/-- **The files of a tree,** each as the names that lead to it: depth first, entries in the order of their
    names. -/
def files : FileTree → List (List String)
  | file _ => [[]]
  | directory entries => (sortByName (filesOfEntries entries)).flatMap fun (name, below) => below.map (name :: ·)

/-- The files below each entry. -/
def filesOfEntries : List (String × FileTree) → List (String × List (List String))
  | [] => []
  | (name, t) :: rest => (name, files t) :: filesOfEntries rest

end

end FileTree

/-! ## Failure -/

/-- **Why a file cannot be read.** -/
inductive FileError where
  | notFound
  | notADirectory
  | isADirectory
  | nameTooLong
  | nulInName
  | notText
  deriving DecidableEq, Repr, Inhabited

/-- The wording of a file error, with the system's number where it has one. -/
def FileError.message : FileError → String
  | notFound => "No such file or directory (os error 2)"
  | notADirectory => "Not a directory (os error 20)"
  | isADirectory => "Is a directory (os error 21)"
  | nameTooLong => "File name too long (os error 36)"
  | nulInName => "file name contained an unexpected NUL byte"
  | notText => "stream did not contain valid UTF-8"

/-! ## Looking up -/

/-- **A file system:** a directory tree and the names that lead to the working directory. -/
structure FileSystem where
  top : FileTree
  workingDirectory : List String
  deriving Inhabited

namespace FileSystem

/-- The longest name and the longest path, in bytes. -/
def nameLimit : Nat := 255
def pathLimit : Nat := 4095

/-- Where a lookup stands: the names that lead there, last one first, and the tree that is there. -/
structure Place where
  trail : List String
  tree : FileTree

/-- Go one piece of a path further. Only a directory can be gone through, even by an idle piece. -/
def advance (fs : FileSystem) (place : Place) (piece : Piece) : Except FileError Place :=
  if !place.tree.isDirectory then .error .notADirectory
  else
    match Piece.component? piece with
    | some .up =>
      let trail := place.trail.drop 1
      .ok ⟨trail, (fs.top.descend? trail.reverse).getD fs.top⟩
    | some (.name name) =>
      if nameLimit < name.utf8ByteSize then .error .nameTooLong
      else
        match place.tree.child? name with
        | some t => .ok ⟨name :: place.trail, t⟩
        | none => .error .notFound
    | _ => .ok place

/-- **Look a path up.** The empty path is found nowhere. -/
def find (fs : FileSystem) (p : Path) : Except FileError FileTree := do
  if p.text.contains '\x00' then throw .nulInName
  if pathLimit < p.text.utf8ByteSize then throw .nameTooLong
  let text := p.text.toList
  if text.isEmpty then throw .notFound
  let start : Place :=
    if p.isAbsolute then ⟨[], fs.top⟩
    else ⟨fs.workingDirectory.reverse, (fs.top.descend? fs.workingDirectory).getD (.directory [])⟩
  let place ← (text.splitOn '/').foldlM (fs.advance ·) start
  return place.tree

/-- Whether there is a directory at a path. -/
def isDirectory (fs : FileSystem) (p : Path) : Bool :=
  match fs.find p with
  | .ok t => t.isDirectory
  | .error _ => false

/-- **The text of the file at a path.** -/
def readText (fs : FileSystem) (p : Path) : Except FileError String := do
  match ← fs.find p with
  | .directory _ => throw .isADirectory
  | .file content =>
    match String.fromUTF8? content with
    | some text => return text
    | none => throw .notText

/-- The files below the directory at a path, each as a relative path. -/
def filesBelow (fs : FileSystem) (p : Path) : List Path :=
  match fs.find p with
  | .ok t => t.files.map fun names => Path.ofText ("/".intercalate names)
  | .error _ => []

/-! ## Filling -/

/-- The names that lead to a path from the top, `..` taken as a step back. -/
def namesTo (fs : FileSystem) (p : Path) : List String :=
  let start := if p.isAbsolute then [] else fs.workingDirectory.reverse
  let step (trail : List String) : Component → List String
    | .up => trail.drop 1
    | .name name => name :: trail
    | _ => trail
  (p.components.foldl step start).reverse

/-- **Put a tree at a path,** with the directories on the way. -/
def put (fs : FileSystem) (p : Path) (t : FileTree) : FileSystem :=
  { fs with top := t.insertAt (fs.namesTo p) fs.top }

end FileSystem

end RootFold
