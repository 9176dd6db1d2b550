import RootFold.CommandLine.Run

/-!
# `RootFold.Main` — the program

The outer layer: it hands the arguments, the variables and the files that a request may look at to
`CommandLine.run`, and writes what comes back. It decides nothing.

A link inside a directory is not followed; a link that is named is.
-/

namespace RootFold.Program

open CommandLine

/-- The tree at an entry of the disk, if it can be read. -/
partial def readTree (entry : IO.FS.DirEntry) : BaseIO (Option FileTree) := do
  match ← entry.path.readDir.toBaseIO with
  | .error _ => return (← (IO.FS.readBinFile entry.path).toBaseIO).toOption.map .file
  | .ok found =>
    let mut entries := []
    for inner in found do
      let isLink := (← inner.path.symlinkMetadata.toBaseIO).toOption.all (·.type matches .symlink)
      if !isLink then
        if let some t ← readTree inner then
          entries := (inner.fileName, t) :: entries
    return some (.directory entries)

/-- A file system with what the disk has at a path, and with the directories on the way there. -/
def look (files : FileSystem) (path : Path) : IO FileSystem := do
  let home ← IO.currentDir
  let mut files := files
  for above in path.ancestors.reverse do
    if !files.isDirectory above && (← (home / above.text).isDir) then
      files := files.put above (.directory [])
  if let some t ← readTree ⟨home, path.text⟩ then
    files := files.put path t
  return files

/-- The files that a request may look at. -/
def filesFor (request : Request) : IO FileSystem := do
  let names := ((← IO.currentDir).toString.splitOn "/").filter (!·.isEmpty)
  let home : FileSystem := ⟨FileTree.insertAt (.directory []) names (.directory []), names⟩
  let files ← look home request.manifest
  match Manifest.ofFile files request.manifest with
  | .error _ => return files
  | .ok manifest => (request.places manifest).foldlM look files

/-- The variables that a run looks at. -/
def environment : IO Environment := do
  let mut found := []
  for name in variablesRead do
    if let some text ← IO.getEnv name then
      found := found ++ [(name, text)]
  return ⟨found⟩

end RootFold.Program

/-- Run once, and end with the code of the run. -/
def main (arguments : List String) : IO UInt32 := do
  let files ← match RootFold.CommandLine.Request.read arguments with
    | .ok request => RootFold.Program.filesFor request
    | .error _ => pure default
  let outcome := RootFold.CommandLine.run arguments (← RootFold.Program.environment) files
  (← IO.getStdout).putStr outcome.output
  (← IO.getStderr).putStr outcome.log
  return outcome.code.toUInt32
