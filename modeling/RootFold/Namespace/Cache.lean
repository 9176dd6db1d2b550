import RootFold.Namespace.Resolver

/-!
# `RootFold.Namespace.Cache` — what one pass knows about namespaces

A pass asks its resolver about each file once and remembers the answer, also when there is none. From the answer
for a folder's file it learns the namespace of the file's directory, and, as long as directory and namespace end
in the same name, the namespace of the directories above. What is known about a directory first stands.

## Contents
- **Answers.** `NamespaceCache.resolve`, `NamespaceCache.calls`.
- **Directories.** `placements` lists the directories that one answer places; `NamespaceCache.register`,
  `NamespaceCache.lookup`.
-/

namespace RootFold

/-- **The directories that get a namespace** when `directory` is in `ns`: itself, then the one above in the
    namespace above, as long as both end in the same name. -/
def placements (directory ns : Path) : List (Path × Path) :=
  (directory, ns) ::
    if directory.fileName?.isSome && directory.fileName? == ns.fileName? then
      match _h : directory.parentDir?, ns.parent? with
      | some above, some nsAbove => placements above nsAbove
      | _, _ => []
    else []
termination_by directory.components.length
decreasing_by exact Path.length_components_of_parentDir? _h

/-- **What one pass knows about namespaces.** -/
structure NamespaceCache where
  /-- The files that the resolver was asked about and its answers, in the order of asking. -/
  answers : List (Path × Option Path)
  /-- The directories whose namespace is known. -/
  directories : PathMap Path
  deriving Inhabited

namespace NamespaceCache

/-- The cache of a pass that has asked nothing. -/
def empty : NamespaceCache := ⟨[], .empty⟩

/-- The remembered answer for a file, if it was asked about. -/
def answer? (c : NamespaceCache) (file : Path) : Option (Option Path) :=
  (c.answers.find? (·.1 == file)).map (·.2)

/-- The files that the resolver was asked about, in order. -/
def calls (c : NamespaceCache) : List Path := c.answers.map (·.1)

/-- How many files the resolver was asked about. -/
def resolutions (c : NamespaceCache) : Nat := c.answers.length

/-- **The namespace of a file.** The resolver is asked unless it was before. -/
def resolve (c : NamespaceCache) (resolver : Resolver) (file : Path) : Option Path × NamespaceCache :=
  match c.answer? file with
  | some known => (known, c)
  | none =>
    let answer := resolver.resolve file
    (answer, { c with answers := c.answers ++ [(file, answer)] })

/-- What is noticed when a file's namespace is asked for. -/
def resolveNotes (c : NamespaceCache) (resolver : Resolver) (file : Path) : List Note :=
  if (c.answer? file).isSome then [] else resolver.remarks file

/-- Learn the namespaces of directories; what is known already stands. -/
def place (c : NamespaceCache) (rows : List (Path × Path)) : NamespaceCache :=
  { c with directories := rows.foldl (fun m row => m.insertNew row.1 row.2) c.directories }

/-- The directories that a folder's file and its namespace place. A file at the top is in no directory. -/
def placementsOfFile (file ns : Path) : List (Path × Path) :=
  match file.parentDir? with
  | some directory => placements directory ns
  | none => []

/-- **Take note of a folder.** Folders that want no namespace prefix are passed over. -/
def register (c : NamespaceCache) (resolver : Resolver) (folder : Folder) : NamespaceCache × List Note :=
  if !folder.wantsNamespacePrefix then (c, [])
  else
    let file := folder.representative
    let notes := c.resolveNotes resolver file
    match c.resolve resolver file with
    | (none, c) => (c, notes ++ [.noNamespace folder.path file])
    | (some ns, c) =>
      let rows := placementsOfFile file ns
      (c.place rows, notes ++ rows.map fun row => .placed row.1 row.2)

/-- **The namespace of a directory,** if it is known. -/
def lookup (c : NamespaceCache) (directory : Path) : Option Path := c.directories.find? directory

end NamespaceCache

end RootFold
