import RootFold.Folder.Basic
import RootFold.Yaml.Writer

/-!
# `RootFold.Folder.Yaml` — folders as YAML

Each folder is an entry of a sequence with the fields it has in JSON too: its path, its kind, its namespace flag
and, if there are any, its members.
-/

namespace RootFold

open Yaml

/-- The columns at which the texts of a folder's fields are indented. -/
def yamlTextIndent : Nat := 4

/-- A folder as an entry. -/
def Folder.toYaml (f : Folder) : String :=
  let members :=
    if f.members.isEmpty then ""
    else "  members:\n" ++
      String.join (f.members.toList.map fun member => "  - " ++ Writer.writeText yamlTextIndent member.text)
  "- path: " ++ Writer.writeText yamlTextIndent f.path.text ++
    s!"  kind: {f.kind.name}\n  wants_namespace_prefix: {f.wantsNamespacePrefix}\n" ++ members

/-- **Folders as a YAML document.** -/
def foldersToYaml (folders : List Folder) : String :=
  if folders.isEmpty then "[]\n" else String.join (folders.map Folder.toYaml)

end RootFold
