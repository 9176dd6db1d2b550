import RootFold.CommandLine.Arguments
import RootFold.CommandLine.Failure
import RootFold.Manifest.Load
import RootFold.Manifest.Scan
import RootFold.Folder.Json
import RootFold.Folder.Yaml
import RootFold.Report.AncestryTree
import RootFold.Simplify

/-!
# `RootFold.CommandLine.Commands` — the commands

Three commands read a manifest: one simplifies its folders, one draws the tree of their ancestry, one checks the
manifest without merging anything. A command prints, makes notes and may fail; what it has printed and noted
before stands.

## Contents
- **Commands.** `CommandM`, `Setting`.
- **Loading.** `loadFolders`.
- **The three.** `simplifyCommand`, `treeCommand`, `checkCommand`.
-/

namespace RootFold.CommandLine

/-- **What a command is run with.** -/
structure Setting where
  files : FileSystem
  style : Style
  request : Request

/-- **What a command leaves behind:** what it printed, and its notes. -/
structure Trace where
  printed : String := ""
  notes : List Note := []
  deriving Inhabited

/-- **A command.** -/
abbrev CommandM := EStateM Failure Trace

namespace CommandM

/-- Print a text. -/
def print (text : String) : CommandM Unit := modify fun t => { t with printed := t.printed ++ text }

/-- Print a line. -/
def printLine (text : String) : CommandM Unit := print (text ++ "\n")

/-- Make notes. -/
def note (notes : List Note) : CommandM Unit := modify fun t => { t with notes := t.notes ++ notes }

/-- Fail, because of an error if there is one. -/
def orFail {α : Type} (summary : String) : Except Error α → CommandM α
  | .ok a => pure a
  | .error e => throw (.because summary e)

/-- Keep the notes of a computation, and go on with its result. -/
def noting {α : Type} (result : Except Error α × List Note) : CommandM (Except Error α) := do
  note result.2
  return result.1

end CommandM

open CommandM

/-! ## Loading -/

/-- **The manifest and the folders it declares.** -/
def loadFolders (s : Setting) : CommandM (Manifest × List Folder) := do
  let manifest ← orFail s!"Failed to load manifest from {s.request.manifest}" (Manifest.ofFile s.files s.request.manifest)
  let result ← noting (manifest.toFolders s.files s.request.projectRoot).notes
  let folders ← orFail s!"Failed to collect folders under {s.request.projectRoot}" result
  return (manifest, folders)

/-! ## Simplifying -/

/-- The resolver that was chosen. -/
def resolverFor (s : Setting) (manifest : Manifest) : ResolverChoice → Resolver
  | .mapped => manifest.resolver
  | .directory => .directory
  | .source => .declared s.files s.request.projectRoot (some .directory)

/-- **Folders in the format that was chosen.** -/
def renderFolders (style : Style) (folders : List Folder) : OutputFormat → String
  | .text => style.renderText folders
  | .json => (foldersToJson folders).pretty ++ "\n"
  | .yaml => foldersToYaml folders

/-- **Simplify the folders of a manifest** and print them. -/
def simplifyCommand (s : Setting) (choice : ResolverChoice) (format : OutputFormat) : CommandM Unit := do
  let (manifest, folders) ← loadFolders s
  let result ← noting (runPass (resolverFor s manifest choice) folders)
  let simplified ← orFail s!"Failed to simplify folders from {s.request.manifest}" result
  note [.simplified folders.length simplified.size]
  print (renderFolders s.style simplified.folders format)

/-! ## Drawing -/

/-- **Draw the ancestry of the folders of a manifest,** and list the excluded ones below. -/
def treeCommand (s : Setting) (depth : Option Nat) : CommandM Unit := do
  let (_, folders) ← loadFolders s
  let declared := declaredFolders folders
  let byPath := PathMap.ofList (declared.map fun f => (f.path, f))
  let graph := AncestryGraph.ofList (declaredPaths folders)
  let sign := s.style.symbol "🌳" "[TREE]"
  print (DisplayTree.node s!"{sign} {s.request.manifest}" (graph.roots.map (displayTree graph s.style byPath depth))).draw
  for f in folders.filter (·.isExcluded) do
    printLine s!"{s.style.kindLabel f.kind} {f.path}"

/-! ## Checking -/

/-- The sign in front of good news, and of bad news. -/
def goodSign (style : Style) : String := style.symbol "✅" "[OK]"
def badSign (style : Style) : String := style.symbol "❌" "[ERR]"

/-- How many entries of a manifest are of a kind. -/
def countKind (manifest : Manifest) (kind : FolderKind) : Nat := manifest.folders.countP (·.kind == kind)

/-- The lines that sum a manifest up. -/
def printSummary (style : Style) (manifest : Manifest) : CommandM Unit := do
  let sign := style.symbol "📊" "[INFO]"
  printLine s!"\n{sign} Manifest Summary:"
  printLine s!"   Source folders: {countKind manifest .source}"
  printLine s!"   Test folders: {countKind manifest .test}"
  printLine s!"   Excluded folders: {countKind manifest .exclude}"
  printLine s!"   Namespace overrides: {manifest.namespaces.size}"

/-- The entries whose patterns are not well formed, with their places in the manifest. -/
def badPatterns (manifest : Manifest) : List (Nat × FolderEntry × Glob.PatternError) :=
  manifest.folders.zipIdx.filterMap fun (entry, index) =>
    match entry.scan.map Glob.Pattern.read with
    | some (.error e) => some (index, entry, e)
    | _ => none

/-- The folders of a manifest, checked. -/
def checkFolders (s : Setting) (manifest : Manifest) : NotingM Unit := do
  NotingM.ofExcept (validate (← manifest.toFolders s.files s.request.projectRoot))

/-- **Whether the folders of a manifest pass the check,** with a line about it for each problem. -/
def reportFolders (s : Setting) (manifest : Manifest) : CommandM Bool := do
  match badPatterns manifest with
  | [] =>
    match ← noting (checkFolders s manifest).notes with
    | .ok () =>
      printLine s!"{goodSign s.style} No duplicate or nested folders"
      return true
    | .error e =>
      printLine s!"{badSign s.style} {e.message}"
      return false
  | bad =>
    for (index, entry, e) in bad do
      printLine s!"{badSign s.style} Invalid scan pattern in folder {index} ({entry.path}): {e.message}"
    return false

/-- **Check a manifest** and report on it. -/
def checkCommand (s : Setting) : CommandM Unit := do
  let scanSign := s.style.symbol "🔍" "[SCAN]"
  printLine s!"{scanSign} Checking manifest: {s.request.manifest}"
  match Manifest.ofFile s.files s.request.manifest with
  | .error e =>
    printLine s!"{badSign s.style} Manifest parsing failed: {e.message}"
    throw (.plain s!"Manifest parsing failed: {e.message}")
  | .ok manifest =>
    printLine s!"{goodSign s.style} Manifest parsed successfully"
    printSummary s.style manifest
    let good ← reportFolders s manifest
    let resultSign := s.style.symbol "🎯" "[RESULT]"
    printLine s!"\n{resultSign} Check Result:"
    if good then printLine s!"{goodSign s.style} Manifest is valid"
    else
      printLine s!"{badSign s.style} Manifest has errors that must be fixed"
      throw (.plain "Manifest check failed")

end RootFold.CommandLine
