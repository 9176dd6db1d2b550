import RootFold.CommandLine.Commands
import RootFold.Proofs.Json.RoundTrip
import RootFold.Proofs.Pass.Evaluation

/-!
# `RootFold.Proofs.Folder.Json` — folders that are written as JSON are read back

A folder becomes a plain value, and plain values are read back from their texts. What is left is the record: its
fields are met in the order in which they are written, and each puts its part of the folder into the draft. Members
come back as a list, and the list of a set makes up the set again. Folders are equal here down to the spelling of
their paths.

## Contents
- **Positions.** `Json.readFields_cons`, `Json.readList_map`, and documents, `Json.readDocument_write`.
- **Folders.** `Folder.readFields_toJson`, `Folder.ofJson_toJson`, `Folder.isPlain_toJson`.
- **Lists.** `readDocument_foldersToJson`, and `folders_read_back` for one folder and for the result of a pass.
-/

namespace RootFold

open Document

/-! ## Positions -/

namespace Json

variable {Draft α : Type} {r : Record Json ReadM Draft α} {draft draft' : Draft}

/-- A field that is met for the first time changes the draft. -/
theorem readFields_cons {field : Field Json ReadM Draft} {name : String} {seen : List String} {value : Json}
    (hfield : r.field? name = some field) (hnew : seen.contains name = false)
    (hread : field.read draft value = .ok draft') (rest : List (Json × Json)) :
    readFields r seen draft ((.string name, value) :: rest) = readFields r (name :: seen) draft' rest := by
  simp only [readFields, readKey, bind, Except.bind, hfield, hnew, hread, Bool.false_eq_true, if_false]

/-- What is read back one by one is read back as a list. -/
theorem readList_map {read : Json → ReadM α} {write : α → Json} (h : ∀ a, read (write a) = .ok a) (l : List α) :
    readList read (.array (l.map write)) = .ok l := by
  show (l.map write).mapM read = .ok l
  induction l with
  | nil => rfl
  | cons a l ih =>
    rw [List.map_cons, List.mapM_cons, h, ih]
    rfl

/-- **A document of a plain value** is read as the value is, in any layout and with space after it. -/
theorem readDocument_write {value : Json} (h : IsPlain value) (readValue : Json → ReadM α) (layout : Option Nat)
    {space : String} (hspace : IsSpace space) :
    readDocument readValue (write layout value ++ space) = readValue value := by
  rw [readDocument, read_write h layout hspace]
  cases readValue value <;> rfl

end Json

/-! ## Folders -/

namespace Folder

theorem readPath_text (p : Path) : readPath (.string p.text) = .ok p := by
  show Except.ok (Path.ofText p.text) = _
  rw [Path.ofText_text]

theorem readMembers_text (members : List Path) :
    Json.readList readPath (.array (members.map fun member => .string member.text)) = .ok members :=
  Json.readList_map readPath_text members

theorem readKind_name (kind : FolderKind) : Json.readChoice FolderKind.words (.string kind.name) = .ok kind := by
  rw [Json.readChoice, Json.lookUpWord, FolderKind.find?_words]

/-- **The fields that every folder has** make a draft that lacks nothing but members. -/
theorem readFields_toJson (path : Path) (kind : FolderKind) (flag : Bool) (rest : List (Json × Json)) :
    Json.readFields jsonRecord [] jsonRecord.start
        ((.string "path", .string path.text) :: (.string "kind", .string kind.name) ::
          (.string "wants_namespace_prefix", .boolean flag) :: rest) =
      Json.readFields jsonRecord ["wants_namespace_prefix", "kind", "path"] ⟨some path, some kind, some flag, .empty⟩
        rest := by
  calc
    _ = Json.readFields jsonRecord ["path"] ⟨some path, none, none, .empty⟩ _ :=
      Json.readFields_cons rfl rfl (by simp only [readPath_text]; rfl) _
    _ = Json.readFields jsonRecord ["kind", "path"] ⟨some path, some kind, none, .empty⟩ _ :=
      Json.readFields_cons rfl rfl (by simp only [readKind_name]; rfl) _
    _ = _ := Json.readFields_cons rfl rfl rfl _

/-- **A folder is read back from its JSON value,** every path as it was spelled. -/
theorem ofJson_toJson (f : Folder) : ofJson f.toJson = .ok f := by
  obtain ⟨path, kind, flag, members⟩ := f
  by_cases hempty : members.isEmpty
  · have hmembers : members = .empty :=
      PathSet.ext_toList (congrArg (List.map Prod.fst) (List.isEmpty_iff.1 hempty))
    rw [toJson, if_pos hempty, ofJson, Json.record, Json.readRecord]
    simp only [List.append_nil, List.map_cons, List.map_nil]
    rw [readFields_toJson, hmembers]
    rfl
  · rw [toJson, if_neg hempty, ofJson, Json.record, Json.readRecord]
    simp only [List.cons_append, List.nil_append, List.map_cons, List.map_nil]
    have hmembers : Json.readFields jsonRecord ["wants_namespace_prefix", "kind", "path"]
        ⟨some path, some kind, some flag, .empty⟩
        [(.string "members", .array (members.toList.map fun member => .string member.text))] =
          .ok ⟨some path, some kind, some flag, members⟩ := by
      rw [Json.readFields_cons rfl rfl (by simp only [readMembers_text]; rfl), PathSet.ofList_toList]
      rfl
    rw [readFields_toJson, hmembers]
    rfl

theorem isPlain_toJson (f : Folder) : f.toJson.IsPlain := by
  refine .record (List.forall_mem_append.2 ⟨?_, ?_⟩)
  · intro field hfield
    simp only [List.mem_cons, List.not_mem_nil, or_false] at hfield
    rcases hfield with rfl | rfl | rfl
    · exact .string _
    · exact .string _
    · exact .boolean _
  · split
    · exact fun _ hfield => absurd hfield List.not_mem_nil
    · intro field hfield
      obtain rfl := List.mem_singleton.1 hfield
      refine .array fun item hitem => ?_
      obtain ⟨member, -, rfl⟩ := List.mem_map.1 hitem
      exact .string _

end Folder

/-! ## Lists -/

theorem foldersOfJson_foldersToJson (folders : List Folder) : foldersOfJson (foldersToJson folders) = .ok folders :=
  Json.readList_map Folder.ofJson_toJson folders

theorem isPlain_foldersToJson (folders : List Folder) : (foldersToJson folders).IsPlain := by
  refine .array fun item hitem => ?_
  obtain ⟨f, -, rfl⟩ := List.mem_map.1 hitem
  exact f.isPlain_toJson

/-- **Folders are read back from their document,** in the order in which they were written. -/
theorem readDocument_foldersToJson (folders : List Folder) (layout : Option Nat) {space : String}
    (hspace : Json.IsSpace space) :
    Json.readDocument foldersOfJson (Json.write layout (foldersToJson folders) ++ space) = .ok folders := by
  rw [Json.readDocument_write (isPlain_foldersToJson folders) foldersOfJson layout hspace,
    foldersOfJson_foldersToJson]

/-- **Output is read back:** every folder from its own document, and the folders of every pass that succeeds from the
    document of all, in one line, on lines of their own, and as it is printed. -/
theorem folders_read_back :
    (∀ f : Folder, Folder.readJson f.toJson.compact = .ok f ∧ Folder.readJson f.toJson.pretty = .ok f) ∧
    ∀ (resolver : Resolver) (folders : List Folder) (out : Simplified), simplify resolver folders = .ok out →
      Json.readDocument foldersOfJson (foldersToJson out.folders).compact = .ok out.folders ∧
      Json.readDocument foldersOfJson (foldersToJson out.folders).pretty = .ok out.folders ∧
      ∀ style : Style,
        Json.readDocument foldersOfJson (CommandLine.renderFolders style out.folders .json) = .ok out.folders := by
  have hnone : Json.IsSpace "" := by simp [Json.IsSpace]
  have hline : Json.IsSpace "\n" := by simp [Json.IsSpace, Json.isSpace]
  constructor
  · intro f
    have hread : ∀ layout, Folder.readJson (Json.write layout f.toJson) = .ok f := by
      intro layout
      have hdocument := Json.readDocument_write f.isPlain_toJson Folder.ofJson layout hnone
      rw [String.append_empty, Folder.ofJson_toJson] at hdocument
      rw [Folder.readJson, hdocument]
    exact ⟨hread none, hread (some 0)⟩
  · intro resolver folders out _
    have hread : ∀ layout, Json.readDocument foldersOfJson (Json.write layout (foldersToJson out.folders)) =
        .ok out.folders := by
      intro layout
      have hdocument := readDocument_foldersToJson out.folders layout hnone
      rwa [String.append_empty] at hdocument
    exact ⟨hread none, hread (some 0), fun _ => readDocument_foldersToJson out.folders (some 0) hline⟩

/-- A folder with quotes, a control and a letter beyond ASCII in its paths, and a member spelled with a slash too
    many. -/
def quoted : Folder :=
  { Folder.ofKind .test (.ofText "src/\x22q\x22") with
    members := .ofList [.ofText "src/\x22q\x22//\x01.txt", .ofText "src/\x22q\x22/\\é.txt"] }

theorem folders_read_back_quoted :
    Folder.readJson quoted.toJson.pretty = .ok quoted ∧
      ∃ out, simplify .directory [quoted] = .ok out ∧
        Json.readDocument foldersOfJson (foldersToJson out.folders).compact = .ok out.folders := by
  have hi : Independent (declaredFolders [quoted]) := independent_of_not_prefix (by decide)
  obtain ⟨acc, heq, -⟩ := exists_simplify .directory hi
  exact ⟨(folders_read_back.1 quoted).2, _, heq, (folders_read_back.2 .directory [quoted] _ heq).1⟩

end RootFold
