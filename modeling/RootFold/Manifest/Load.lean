import RootFold.Manifest.Basic
import RootFold.Json.Format
import RootFold.Yaml.Format
import RootFold.Text.Occurrence

/-!
# `RootFold.Manifest.Load` — manifests from text and from files

A manifest is written in YAML, or in JSON when its file name says so. A fault in it comes with a hint when the
wording of the fault tells what to mend.

## Contents
- **Hints.** `Manifest.hint?`.
- **Texts.** `Manifest.ofYaml`, `Manifest.ofJson`.
- **Files.** `Manifest.ofFile`.
-/

namespace RootFold.Manifest

/-- What to mend, by what stands in the wording of a fault. The first that is found counts. -/
def hints : List (String × String) := [
  ("unknown variant", "kind must be one of: source, test, exclude"),
  ("missing field `path`", "add 'path:' to every folder entry"),
  ("missing field `kind`", "add 'kind:' to every folder entry"),
  ("unknown field", "folder entries accept path, kind, namespace_prefix, members and scan")]

/-- **How to mend a manifest** that has a fault of this wording. -/
def hint? (message : String) : Option String :=
  (hints.find? fun (part, _) => Text.occursIn part.toList message.toList).map (·.2)

/-- The error for a fault in a manifest. -/
def errorOf (fault : Document.Fault) : Error := .manifest fault.message (hint? fault.message)

/-- **A manifest from a YAML text.** -/
def ofYaml (text : String) : Except Error Manifest := (Yaml.readDocument read text).mapError errorOf

/-- **A manifest from a JSON text.** -/
def ofJson (text : String) : Except Error Manifest := (Json.readDocument read text).mapError errorOf

/-- Whether the name of a file says that it holds JSON. -/
def isJsonFile (p : Path) : Bool := p.extension?.any (·.toLower == "json")

/-- **A manifest from a file.** -/
def ofFile (fs : FileSystem) (p : Path) : Except Error Manifest := do
  let text ← (fs.readText p).mapError .file
  if isJsonFile p then ofJson text else ofYaml text

end RootFold.Manifest
