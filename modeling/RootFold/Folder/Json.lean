import RootFold.Folder.Basic
import RootFold.Json.Format
import RootFold.Json.Writer

/-!
# `RootFold.Folder.Json` — folders as JSON

A folder is an object of its path, its kind, its namespace flag and its members; the members are left out when
there are none, and a folder without them has none. Other fields are passed over.

## Contents
- **Writing.** `Folder.toJson`, `foldersToJson`.
- **Reading.** `Folder.ofJson`, `foldersOfJson`, and `Folder.readJson` on text.
-/

namespace RootFold

open Document

namespace Folder

/-! ## Writing -/

/-- **A folder as JSON.** -/
def toJson (f : Folder) : Json :=
  Json.record <|
    [("path", .string f.path.text), ("kind", .string f.kind.name),
      ("wants_namespace_prefix", .boolean f.wantsNamespacePrefix)] ++
    if f.members.isEmpty then []
    else [("members", .array (f.members.toList.map fun member => .string member.text))]

/-! ## Reading -/

/-- What is known of a folder while it is read. -/
structure Draft where
  path : Option Path := none
  kind : Option FolderKind := none
  wantsNamespacePrefix : Option Bool := none
  members : PathSet := .empty

/-- The folder of a draft, or the first field that it lacks. -/
def Draft.finish (d : Draft) : Except String Folder :=
  match d.path, d.kind, d.wantsNamespacePrefix with
  | none, _, _ => .error "path"
  | some _, none, _ => .error "kind"
  | some _, some _, none => .error "wants_namespace_prefix"
  | some path, some kind, some flag => .ok ⟨path, kind, flag, d.members⟩

/-- A path as a text. -/
def readPath (value : Json) : Json.ReadM Path := return .ofText (← Json.readText "path string" value)

/-- The record of a folder. -/
def jsonRecord : Record Json Json.ReadM Draft Folder where
  name := "Folder"
  strict := false
  fields := [
    ⟨"path", fun d value => return { d with path := some (← readPath value) }⟩,
    ⟨"kind", fun d value => return { d with kind := some (← Json.readChoice FolderKind.words value) }⟩,
    ⟨"wants_namespace_prefix", fun d value => return { d with wantsNamespacePrefix := some (← Json.readFlag value) }⟩,
    ⟨"members", fun d value => return { d with members := .ofList (← Json.readList readPath value) }⟩]
  start := ⟨none, none, none, .empty⟩
  finish := Draft.finish

/-- **A folder from JSON.** -/
def ofJson (value : Json) : Json.ReadM Folder := Json.readRecord jsonRecord value

/-- **A folder from a JSON text.** -/
def readJson (text : String) : Except Error Folder :=
  match Json.readDocument ofJson text with
  | .ok folder => .ok folder
  | .error fault => .error (.json fault.message)

end Folder

/-- Folders as a JSON array. -/
def foldersToJson (folders : List Folder) : Json := .array (folders.map Folder.toJson)

/-- **Folders from a JSON array.** -/
def foldersOfJson (value : Json) : Json.ReadM (List Folder) := Json.readList Folder.ofJson value

end RootFold
