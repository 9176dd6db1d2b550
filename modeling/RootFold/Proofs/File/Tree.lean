import RootFold.File.Tree
import RootFold.Proofs.Path.Steps
import Mathlib.Data.List.Nodup

/-!
# `RootFold.Proofs.File.Tree` — the files of a tree are listed once, in path order

Files are listed directory by directory, entries by name. This is the order of paths, whatever the names are: two files
part at some directory, where their paths have different names, and these are compared as the entries were sorted.
What a name begins with and what a slash would sort before does not matter, since a slash is in no name.

## Contents
- **Trees.** `FileTree.induction`, and `IsProper` for trees that a file system can hold.
- **Looking up.** `child?_eq_some_iff`, `isProper_directory`, `IsProper.entry`, `IsProper.isFileName`.
- **Listing.** `files_directory`; which files, `IsProper.mem_files`, and in which order, `IsProper.files_sorted`.
- **Paths.** `Path.ofNames`, `components_ofNames`, `join_ofNames_lt`.
-/

namespace RootFold

/-! ## Trees -/

/-- **What an entry of a directory can be called:** anything without a slash but nothing, `.` and `..`. -/
structure IsFileName (name : String) : Prop where
  ne_empty : name ≠ ""
  ne_dot : name ≠ "."
  ne_dots : name ≠ ".."
  no_slash : '/' ∉ name.toList

instance (name : String) : Decidable (IsFileName name) :=
  decidable_of_iff (name ≠ "" ∧ name ≠ "." ∧ name ≠ ".." ∧ '/' ∉ name.toList)
    ⟨fun ⟨h₁, h₂, h₃, h₄⟩ => ⟨h₁, h₂, h₃, h₄⟩, fun ⟨h₁, h₂, h₃, h₄⟩ => ⟨h₁, h₂, h₃, h₄⟩⟩

namespace FileTree

variable {entries : List (String × FileTree)} {t u : FileTree} {name : String} {names rest : List String}

/-- **Induction on a tree,** from what its directories hold. -/
theorem induction {P : FileTree → Prop} (file : ∀ content, P (.file content))
    (directory : ∀ entries : List (String × FileTree), (∀ e ∈ entries, P e.2) → P (.directory entries)) :
    ∀ t, P t
  | .file content => file content
  | .directory entries => directory entries fun e _ => induction file directory e.2
termination_by t => sizeOf t
decreasing_by
  have hmem := List.sizeOf_lt_of_mem ‹e ∈ entries›
  have hpair : sizeOf e.2 < sizeOf e := by
    obtain ⟨name, t⟩ := e
    simp only [Prod.mk.sizeOf_spec]
    omega
  simp only [FileTree.directory.sizeOf_spec]
  omega

/-- **A tree that a file system can hold:** the entries of every directory in it have names of their own. -/
def IsProper (t : FileTree) : Prop :=
  ∀ names entries, t.descend? names = some (.directory entries) →
    (entries.map (·.1)).Nodup ∧ ∀ e ∈ entries, IsFileName e.1

/-! ## Looking up -/

theorem descend?_cons : t.descend? (name :: rest) = (t.child? name).bind (descend? rest) := rfl

/-- An entry is found by its name, if no other has it. -/
theorem child?_eq_some_iff (h : (entries.map (·.1)).Nodup) :
    (directory entries).child? name = some u ↔ (name, u) ∈ entries := by
  rw [child?, Option.map_eq_some_iff]
  constructor
  · rintro ⟨⟨name', u'⟩, hfind, rfl⟩
    obtain rfl : name' = name := by simpa using List.find?_some hfind
    exact List.mem_of_find?_eq_some hfind
  · intro hmem
    cases hfind : entries.find? (·.1 == name) with
    | none => exact absurd (List.find?_eq_none.1 hfind (name, u) hmem) (by simp)
    | some e =>
      have hname : e.1 = name := by simpa using List.find?_some hfind
      refine ⟨e, rfl, ?_⟩
      rw [List.inj_on_of_nodup_map h (List.mem_of_find?_eq_some hfind) hmem hname]

/-- A proper directory has names of its own for its entries. -/
theorem IsProper.ownNames (h : (directory entries).IsProper) :
    (entries.map (·.1)).Nodup ∧ ∀ e ∈ entries, IsFileName e.1 :=
  h [] entries rfl

/-- What a proper directory holds is proper. -/
theorem IsProper.entry (h : (directory entries).IsProper) (hmem : (name, u) ∈ entries) : u.IsProper := by
  intro names below hdescend
  refine h (name :: names) below ?_
  rw [descend?_cons, (child?_eq_some_iff h.ownNames.1).2 hmem]
  exact hdescend

theorem isProper_file (content : ByteArray) : (file content).IsProper := by
  intro names entries h
  cases names with
  | nil => exact absurd (Option.some.inj h) nofun
  | cons name rest => exact absurd h (by simp [descend?_cons, child?])

/-- **A directory is proper** if its entries have names of their own and hold proper trees. -/
theorem isProper_directory (hnames : (entries.map (·.1)).Nodup) (h : ∀ e ∈ entries, IsFileName e.1 ∧ e.2.IsProper) :
    (directory entries).IsProper := by
  intro names below hdescend
  cases names with
  | nil =>
    obtain rfl := directory.inj (Option.some.inj hdescend)
    exact ⟨hnames, fun e he => (h e he).1⟩
  | cons name rest =>
    obtain ⟨u, hu, hrest⟩ := Option.bind_eq_some_iff.1 hdescend
    exact (h _ ((child?_eq_some_iff hnames).1 hu)).2 rest below hrest

/-- All names on the way to something in a proper tree are proper. -/
theorem IsProper.isFileName (h : t.IsProper) (hdescend : t.descend? names = some u) : ∀ n ∈ names, IsFileName n := by
  induction names generalizing t with
  | nil => simp
  | cons name rest ih =>
    cases t with
    | file content => exact absurd hdescend (by simp [descend?_cons, child?])
    | directory entries =>
      obtain ⟨v, hv, hrest⟩ := Option.bind_eq_some_iff.1 hdescend
      have hmem := (child?_eq_some_iff h.ownNames.1).1 hv
      intro n hn
      rcases List.mem_cons.1 hn with rfl | hn
      · exact h.ownNames.2 _ hmem
      · exact ih (h.entry hmem) hrest n hn

/-! ## Listing -/

theorem files_directory : (directory entries).files =
    (sortByName (entries.map fun e => (e.1, e.2.files))).flatMap fun e => e.2.map (e.1 :: ·) := by
  have hall : ∀ entries : List (String × FileTree), filesOfEntries entries = entries.map fun e => (e.1, e.2.files) := by
    intro entries
    induction entries with
    | nil => rfl
    | cons e rest ih => rw [filesOfEntries, ih, List.map_cons]
  rw [files, hall]

theorem mem_sortByName {α : Type} {l : List (String × α)} {e : String × α} : e ∈ sortByName l ↔ e ∈ l :=
  (List.mergeSort_perm _ _).mem_iff

/-- Entries with names of their own are in strict order of the names. -/
theorem sortByName_sorted {α : Type} {l : List (String × α)} (h : (l.map (·.1)).Nodup) :
    (sortByName l).Pairwise fun a b => a.1 < b.1 := by
  have hle : (sortByName l).Pairwise fun a b => (!decide (b.1 < a.1)) = true := by
    refine List.pairwise_mergeSort (fun a b c hab hbc => ?_) (fun a b => ?_) l
    · simp only [Bool.not_eq_true', decide_eq_false_iff_not] at *
      exact String.le_trans hab hbc
    · simp only [Bool.or_eq_true, Bool.not_eq_true', decide_eq_false_iff_not]
      exact String.le_total a.1 b.1
  have hne : (sortByName l).Pairwise fun a b => a.1 ≠ b.1 :=
    (List.mergeSort_perm l _).symm.pairwise (List.pairwise_map.1 h) fun hab => hab.symm
  refine (hle.and hne).imp fun {a b} ⟨hab, hne⟩ => ?_
  simp only [Bool.not_eq_true', decide_eq_false_iff_not] at hab
  by_contra hlt
  exact hne (String.le_antisymm (String.not_lt.1 hab) (String.not_lt.1 hlt))

/-- **The files that are listed** are those that the names lead to. -/
theorem IsProper.mem_files : ∀ {t : FileTree}, t.IsProper → ∀ names,
    names ∈ t.files ↔ ∃ content, t.descend? names = some (.file content) := by
  intro t
  induction t using FileTree.induction with
  | file content =>
    intro _ names
    cases names with
    | nil => exact iff_of_true List.mem_cons_self ⟨content, rfl⟩
    | cons name rest => exact iff_of_false (by simp [files]) (by simp [descend?_cons, child?])
  | directory entries ih =>
    intro h names
    simp only [files_directory, List.mem_flatMap, mem_sortByName, List.mem_map, exists_exists_and_eq_and]
    constructor
    · rintro ⟨e, he, rest, hrest, rfl⟩
      rw [descend?_cons, (child?_eq_some_iff h.ownNames.1).2 he]
      exact (ih e he (h.entry he) rest).1 hrest
    · rintro ⟨content, hdescend⟩
      cases names with
      | nil => exact absurd (Option.some.inj hdescend) nofun
      | cons name rest =>
        obtain ⟨u, hu, hrest⟩ := Option.bind_eq_some_iff.1 hdescend
        have hmem := (child?_eq_some_iff h.ownNames.1).1 hu
        exact ⟨(name, u), hmem, rest, (ih _ hmem (h.entry hmem) rest).2 ⟨content, hrest⟩, rfl⟩

/-- **Files are listed in strict order** of the names on the way to them, the first name that differs deciding. -/
theorem IsProper.files_sorted : ∀ {t : FileTree}, t.IsProper → t.files.Pairwise (· < ·) := by
  intro t
  induction t using FileTree.induction with
  | file content => exact fun _ => List.pairwise_singleton _ _
  | directory entries ih =>
    intro h
    have hnames : ((entries.map fun e => (e.1, e.2.files)).map (·.1)).Nodup := by
      rw [List.map_map]
      exact h.ownNames.1
    rw [files_directory, List.pairwise_flatMap]
    constructor
    · -- inside one entry the first name is the same
      intro e he
      obtain ⟨e, hmem, rfl⟩ := List.mem_map.1 (mem_sortByName.1 he)
      exact List.pairwise_map.2 ((ih e hmem (h.entry hmem)).imp fun hlt => .cons hlt)
    · refine (sortByName_sorted hnames).imp fun {e e'} hlt names hnames names' hnames' => ?_
      obtain ⟨rest, -, rfl⟩ := List.mem_map.1 hnames
      obtain ⟨rest', -, rfl⟩ := List.mem_map.1 hnames'
      exact .rel hlt

end FileTree

/-! ## Paths -/

/-- A proper name is a step of a path. -/
theorem IsFileName.isInner {name : String} (h : IsFileName name) : (Component.name name).IsInner := by
  refine ⟨h.no_slash, ?_⟩
  show Piece.component? name.toList = some (.name name)
  unfold Piece.component?
  split
  · next hnil => exact absurd (String.toList_eq_nil_iff.1 hnil) h.ne_empty
  · next hdot => exact absurd (String.toList_inj.1 hdot) h.ne_dot
  · next hdots => exact absurd (String.toList_inj.1 hdots) h.ne_dots
  · rw [String.ofList_toList]

namespace Path

variable {names names' : List String}

/-- **The path of some names,** with slashes between. -/
def ofNames (names : List String) : Path := .ofText ("/".intercalate names)

theorem isInner_map_name (h : ∀ n ∈ names, IsFileName n) : ∀ c ∈ names.map Component.name, c.IsInner := by
  intro c hc
  obtain ⟨n, hn, rfl⟩ := List.mem_map.1 hc
  exact (h n hn).isInner

theorem components_ofNames (h : ∀ n ∈ names, IsFileName n) : (ofNames names).components = names.map .name := by
  rw [ofNames, ← ofComponents_names]
  exact components_ofComponents .plain (isInner_map_name h)

/-- **A file below a directory** has the steps of the directory and the names on the way. -/
theorem components_join_ofNames (p : Path) (h : ∀ n ∈ names, IsFileName n) :
    (p.join (ofNames names)).components = p.components ++ names.map .name := by
  have hsteps := components_ofNames h
  rw [components_join (by simpa only [hsteps] using isInner_map_name h), hsteps]

/-- **Paths below one directory** are in the order of the names. -/
theorem join_ofNames_lt (p : Path) (h : ∀ n ∈ names, IsFileName n) (h' : ∀ n ∈ names', IsFileName n)
    (hlt : names < names') : p.join (ofNames names) < p.join (ofNames names') := by
  rw [lt_def, components_join_ofNames p h, components_join_ofNames p h']
  refine List.append_left_lt (List.map_lt (fun {a b} hab => ?_) hlt)
  exact Component.lt_def.2 (.inr ⟨rfl, hab⟩)

end Path

end RootFold
