import RootFold.Manifest.Basic
import RootFold.Glob.Match
import RootFold.Note

/-!
# `RootFold.Manifest.Scan` — the folders that a manifest declares, with their files

An entry may name files of its folder, and a pattern for further ones; the pattern is matched against the paths of
the files below the folder, as seen from it. Paths are relative to the root of the project, which is where files
are looked for.

## Contents
- **Scanning.** `scanFiles` on the files below a directory, `scanMembers` in a file system.
- **Folders.** `FolderEntry.toFolder`, `Manifest.toFolders`; they stop at the first error.
-/

namespace RootFold

/-! ## Scanning -/

/-- **The files of a folder that match a pattern,** given all files below it as seen from it. -/
def scanFiles (folder : Path) (pattern : Glob.Pattern) (files : List Path) : List Path :=
  (files.filter pattern.matchesPath).map folder.join

/-- **The files below a folder that match a pattern.** A folder that is no directory has none. -/
def scanMembers (fs : FileSystem) (root folder : Path) (patternText : String) : NotingM (List Path) := do
  match Glob.Pattern.read patternText with
  | .error e => throw (.glob e)
  | .ok pattern =>
    let base := root.join folder
    if !fs.isDirectory base then
      NotingM.note [.cannotScan base]
      return []
    else
      let members := scanFiles folder pattern (fs.filesBelow base)
      NotingM.note [.scanned members.length folder pattern.text]
      return members

/-! ## Folders -/

/-- **The folder that an entry declares.** -/
def FolderEntry.toFolder (fs : FileSystem) (root : Path) (e : FolderEntry) : NotingM Folder := do
  let scanned ← match e.scan with
    | some pattern => scanMembers fs root e.path pattern
    | none => pure []
  return ⟨e.path, e.kind, e.wantsNamespacePrefix, .ofList (e.members ++ scanned)⟩

/-- **The folders that a manifest declares,** in its order. -/
def Manifest.toFolders (fs : FileSystem) (root : Path) (m : Manifest) : NotingM (List Folder) :=
  m.folders.mapM (FolderEntry.toFolder fs root)

end RootFold
