import RootFold.Folder.Basic
import RootFold.Namespace.Resolver
import RootFold.Document.Format

/-!
# `RootFold.Manifest.Basic` — what a manifest declares

A manifest lists folders and gives namespaces to directories. It is read from a document of any format; both
sections may be missing, unknown fields are refused.

## Contents
- **Manifests.** `FolderEntry`, `Manifest`, `Manifest.resolver`.
- **Reading.** `Manifest.readEntry`, `Manifest.read`, over any `Document.Format`.
-/

namespace RootFold

open Document

/-- **A folder as it is declared.** -/
structure FolderEntry where
  path : Path
  kind : FolderKind
  /-- Whether packages below take a namespace prefix; if not given, the kind decides. -/
  namespacePrefixFlag : Option Bool := none
  /-- Files that belong to the folder. -/
  members : List Path := []
  /-- A pattern for further files below the folder. -/
  scan : Option String := none
  deriving Inhabited

/-- Whether packages below the folder take a namespace prefix. -/
def FolderEntry.wantsNamespacePrefix (e : FolderEntry) : Bool :=
  e.namespacePrefixFlag.getD (Folder.defaultPrefixFlag e.kind)

/-- **What a manifest declares.** -/
structure Manifest where
  folders : List FolderEntry := []
  /-- Directories and the namespaces they stand for. -/
  namespaces : PathMap Path := .empty
  deriving Inhabited

namespace Manifest

/-- The resolver of the manifest's own namespaces. -/
def resolver (m : Manifest) : Resolver := .mapped m.namespaces

/-! ## Reading -/

variable {Position : Type} {m : Type → Type} [Monad m] [Format Position m]

/-- A path as a text. -/
def readPath (p : Position) : m Path := return .ofText (← Format.text "path string" p)

/-- What is known of an entry while it is read. -/
structure EntryDraft where
  path : Option Path := none
  kind : Option FolderKind := none
  namespacePrefixFlag : Option Bool := none
  members : List Path := []
  scan : Option String := none

/-- The entry of a draft, or the first field that it lacks. -/
def EntryDraft.finish (d : EntryDraft) : Except String FolderEntry :=
  match d.path, d.kind with
  | none, _ => .error "path"
  | some _, none => .error "kind"
  | some path, some kind => .ok ⟨path, kind, d.namespacePrefixFlag, d.members, d.scan⟩

/-- The record of an entry. -/
def entryRecord : Record Position m EntryDraft FolderEntry where
  name := "FolderEntry"
  strict := true
  fields := [
    ⟨"path", fun d p => return { d with path := some (← readPath p) }⟩,
    ⟨"kind", fun d p => return { d with kind := some (← Format.choice FolderKind.words p) }⟩,
    ⟨"namespace_prefix", fun d p => return { d with namespacePrefixFlag := ← Format.optional Format.flag p }⟩,
    ⟨"members", fun d p => return { d with members := ← Format.list readPath p }⟩,
    ⟨"scan", fun d p => return { d with scan := ← Format.optional (Format.text "a string") p }⟩]
  start := {}
  finish := EntryDraft.finish

/-- **An entry** from a document. -/
def readEntry (p : Position) : m FolderEntry := Format.record entryRecord p

/-- The record of a manifest. -/
def record : Record Position m Manifest Manifest where
  name := "Manifest"
  strict := true
  fields := [
    ⟨"folders", fun d p => return { d with folders := ← Format.list readEntry p }⟩,
    ⟨"namespaces", fun d p => do
      let rows ← Format.table "path string" readPath p
      return { d with namespaces := .ofList (rows.map fun (key, value) => (.ofText key, value)) }⟩]
  start := {}
  finish := .ok

/-- **A manifest** from a document. -/
def read (p : Position) : m Manifest := Format.record record p

end Manifest

end RootFold
