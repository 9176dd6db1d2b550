import RootFold.Proofs.Namespace.Learned

/-!
# `RootFold.Proofs.Namespace.Teaching` — which folder a cache learned about a directory from

Every entry of a cache comes from a folder that teaches it: the folder's file lies some names below the directory,
and the resolver's answer for the file ends in the same names. As long as the files of folders are inside them, no
folder learns from one in another place: about the directory of a declared folder, or one above it, only folders at or
under that directory have anything to say.

## Contents
- **One folder.** `Folder.Teaches`, unique by `Teaches.unique`; further down it is `Teaches.inward`, further up
  `Teaches.outward`.
- **Files inside.** `Folder.home`, `Folder.Housed`.
- **Caches.** `TaughtBy`; a pass over housed folders is `taughtBy_namespacesOf`, `TaughtBy.exists_teacher` finds who
  taught an entry, and a folder's own directory is `TaughtBy.teaches_self`, `TaughtBy.lookup_eq_none`,
  `TaughtBy.lookup_self` and `TaughtBy.answer_of_lookup`.
-/

namespace RootFold

variable {resolver : Resolver} {folders : List Folder} {f g d : Folder} {asked : List Path} {p q ns ns' : Path}
  {c : NamespaceCache}

/-! ## One folder -/

/-- **A folder teaches a namespace for a directory** when the same ordinary names lead from the directory to that of
    the folder's file, and from the namespace to the resolver's answer. The empty path is no directory, so about it no
    folder teaches anything. -/
structure Folder.Teaches (f : Folder) (resolver : Resolver) (q ns : Path) : Prop where
  wants : f.wantsNamespacePrefix = true
  nonempty : q.components ≠ []
  names : ∃ (answer : Path) (words : List String) (last : Component),
    resolver.resolve f.representative = some answer ∧
    f.representative.components = q.components ++ words.map .name ++ [last] ∧
    answer.components = ns.components ++ words.map .name

namespace Folder

/-- What a folder teaches can be read off the steps of its file and of the answer. -/
theorem Teaches.of_components (hwants : f.wantsNamespacePrefix = true) (hq : q.components ≠ []) (words : List String)
    (last : Component) (hfile : f.representative.components = q.components ++ words.map .name ++ [last])
    (hanswer : (resolver.resolve f.representative).map (·.components) = some (ns.components ++ words.map .name)) :
    f.Teaches resolver q ns := by
  obtain ⟨answer, hres, hcomponents⟩ := Option.map_eq_some_iff.1 hanswer
  exact ⟨hwants, hq, answer, words, last, hres, hfile, hcomponents⟩

/-- **The rows that a folder teaches,** if its file is not asked about under another spelling. -/
theorem exists_taught_iff
    (hself : f.wantsNamespacePrefix = true → firstSpelled asked f.representative = f.representative) :
    (∃ row ∈ f.taught resolver asked, (row.1 == q) = true ∧ (row.2 == ns) = true) ↔ f.Teaches resolver q ns := by
  cases hwants : f.wantsNamespacePrefix with
  | false =>
    rw [taught_of_not_wants hwants]
    constructor
    · rintro ⟨row, hrow, -⟩
      exact absurd hrow List.not_mem_nil
    · intro h
      exact absurd h.wants (by simp [hwants])
  | true =>
    rw [taught, if_pos hwants, hself hwants]
    cases hanswer : resolver.resolve f.representative with
    | none =>
      constructor
      · rintro ⟨row, hrow, -⟩
        exact absurd hrow List.not_mem_nil
      · intro h
        obtain ⟨answer, _, _, hres, -⟩ := h.names
        exact absurd (hanswer.symm.trans hres) (by simp)
    | some answer =>
      simp only
      rw [exists_placementsOfFile_iff]
      constructor
      · rintro ⟨hne, words, last, hfile, hns⟩
        exact ⟨hwants, hne, answer, words, last, hanswer, hfile, hns⟩
      · intro h
        obtain ⟨answer', words, last, hres, hfile, hns⟩ := h.names
        obtain rfl : answer = answer' := Option.some.inj (hanswer.symm.trans hres)
        exact ⟨h.nonempty, words, last, hfile, hns⟩

/-! ## Files inside -/

/-- The directory of the file through which the folder's namespace is looked up. -/
def home (f : Folder) : Path := Resolver.containingDirectory f.representative

theorem components_home (f : Folder) : f.home.components = f.representative.components.dropLast :=
  Path.components_parent?_getD _

/-- **The folder's file is inside the folder,** directly or further down. -/
def Housed (f : Folder) : Prop := f.path.Covers f.home

/-- A placeholder is inside its folder. -/
theorem housed_of_no_members (h : f.members.toList = []) : f.Housed := by
  refine .of_beq (Path.beq_iff.2 ?_)
  rw [components_home, components_representative h, List.dropLast_concat]

/-- A folder with members, all of them further inside, has its file inside. -/
theorem housed_of_members (hne : f.members.toList ≠ [])
    (h : ∀ x ∈ f.members.toList, ∃ a ∈ x.ancestors, (f.path == a) = true) : f.Housed := by
  obtain ⟨first, rest, hlist⟩ := List.exists_cons_of_ne_nil hne
  have hrep : f.representative = first := by rw [representative, hlist]; rfl
  obtain ⟨a, ha, hfa⟩ := h first (by rw [hlist]; exact List.mem_cons_self)
  cases hpar : first.parentDir? with
  | none =>
    rw [Path.ancestors_of_parentDir?_eq_none hpar] at ha
    exact absurd ha List.not_mem_nil
  | some m =>
    have hm : (m == f.home) = true :=
      Path.beq_iff.2 (by rw [components_home, hrep, Path.components_of_parentDir? hpar])
    rw [Path.ancestors_of_parentDir?_eq_some hpar] at ha
    have hcov : f.path.Covers m := by
      rcases List.mem_cons.1 ha with rfl | ha
      · exact .of_beq hfa
      · exact .inr ⟨a, ha, hfa⟩
    exact hcov.trans (.of_beq hm)

/-- A folder has its file inside if all its members, if any, are further inside. -/
theorem housed_of_inside (h : ∀ x ∈ f.members.toList, ∃ a ∈ x.ancestors, (f.path == a) = true) : f.Housed := by
  by_cases hmembers : f.members.toList = []
  · exact housed_of_no_members hmembers
  · exact housed_of_members hmembers h

/-- What a folder teaches is about directories on the way to its file. -/
theorem Teaches.covers_home (h : f.Teaches resolver q ns) : q.Covers f.home := by
  obtain ⟨_, words, last, -, hfile, -⟩ := h.names
  have hhome : f.home.components = q.components ++ words.map .name := by
    rw [components_home, hfile, List.dropLast_concat]
  exact Path.covers_iff.2 ⟨hhome ▸ List.prefix_append _ _, fun hnil => absurd hnil h.nonempty⟩

/-- **A folder teaches one namespace** for a directory. -/
theorem Teaches.unique (h : f.Teaches resolver q ns) (h' : f.Teaches resolver q ns') :
    ns.components = ns'.components := by
  obtain ⟨answer, words, last, hres, hfile, hns⟩ := h.names
  obtain ⟨answer', words', last', hres', hfile', hns'⟩ := h'.names
  obtain rfl : answer = answer' := Option.some.inj (hres.symm.trans hres')
  have hwords : q.components ++ words.map .name = q.components ++ words'.map .name :=
    List.append_inj_left' (hfile.symm.trans hfile') rfl
  rw [hns, List.append_cancel_left hwords] at hns'
  exact List.append_cancel_right hns'

/-- **Further down towards its file** a folder teaches the namespace with the same steps behind it. -/
theorem Teaches.inward (h : f.Teaches resolver q ns) (hqp : q.Covers p) (hp : p.Covers f.home) :
    ∃ (ns' : Path) (tail : List Component), f.Teaches resolver p ns' ∧ p.components = q.components ++ tail ∧
      ns'.components = ns.components ++ tail := by
  obtain ⟨answer, words, last, hres, hfile, hns⟩ := h.names
  obtain ⟨tail, htail⟩ := (Path.covers_iff.1 hqp).1
  obtain ⟨rest, hrest⟩ := (Path.covers_iff.1 hp).1
  have hhome : f.home.components = q.components ++ words.map .name := by
    rw [components_home, hfile, List.dropLast_concat]
  -- the names behind `q` are those down to `p` and those behind `p`
  have hsplit : tail ++ rest = words.map .name := by
    rw [← htail, List.append_assoc, hhome] at hrest
    exact List.append_cancel_left hrest
  have hbehind : rest = (words.drop tail.length).map .name := by
    rw [List.map_drop, ← hsplit, List.drop_left]
  refine ⟨.ofComponents (answer.components.take (ns.components ++ tail).length), tail, ⟨h.wants, ?_, ?_⟩,
    htail.symm, ?_⟩
  · intro hnil
    rw [← htail] at hnil
    exact h.nonempty (List.append_eq_nil_iff.1 hnil).1
  · refine ⟨answer, words.drop tail.length, last, hres, ?_, ?_⟩
    · rw [hfile, ← hbehind, ← htail, ← hsplit]
      simp only [List.append_assoc]
    · rw [Path.components_ofComponents_take, hns, ← hbehind, ← hsplit, ← List.append_assoc, List.take_left]
  · rw [Path.components_ofComponents_take, hns, ← hsplit, ← List.append_assoc, List.take_left]

/-- **Further up** a folder teaches the namespace with the same names less. -/
theorem Teaches.outward (h : f.Teaches resolver p ns') (words : List String) (hq : q.components ≠ [])
    (hp : p.components = q.components ++ words.map .name) (hns : ns'.components = ns.components ++ words.map .name) :
    f.Teaches resolver q ns := by
  obtain ⟨answer, below, last, hres, hfile, hanswer⟩ := h.names
  refine ⟨h.wants, hq, answer, words ++ below, last, hres, ?_, ?_⟩
  · rw [hfile, hp, List.map_append, List.append_assoc q.components]
  · rw [hanswer, hns, List.map_append, List.append_assoc]

end Folder

/-! ## Caches -/

namespace NamespaceCache

/-- **A cache that was taught by some folders,** independent ones with their files inside: it knows what one of them
    teaches, and about no directory else. -/
structure TaughtBy (c : NamespaceCache) (resolver : Resolver) (folders : List Folder) : Prop where
  independent : Independent folders
  housed : ∀ f ∈ folders, f.wantsNamespacePrefix = true → f.Housed
  sound : ∀ q ns, c.lookup q = some ns → ∃ f ∈ folders, f.Teaches resolver q ns
  complete : ∀ f ∈ folders, ∀ q ns, f.Teaches resolver q ns → ∃ ns', c.lookup q = some ns'

/-- Independent folders with their files inside are looked up through different files. -/
theorem filesOf_distinct (hi : Independent folders)
    (hhoused : ∀ f ∈ folders, f.wantsNamespacePrefix = true → f.Housed) :
    (filesOf folders).Pairwise fun a b => ¬ (a == b) = true := by
  refine List.pairwise_map.2 ((hi.filter _).imp_of_mem fun {f g} hf hg hfg he => ?_)
  obtain ⟨hf, hfw⟩ := List.mem_filter.1 hf
  obtain ⟨hg, hgw⟩ := List.mem_filter.1 hg
  have hsame : (f.home == g.home) = true :=
    Path.beq_iff.2 (by rw [Folder.components_home, Folder.components_home, Path.beq_iff.1 he])
  rcases ((hhoused f hf hfw).trans (.of_beq hsame)).total (hhoused g hg hgw) with h | h
  · exact hfg.1 h
  · exact hfg.2 h

theorem taughtBy_learned (resolver : Resolver) (hi : Independent folders)
    (hhoused : ∀ f ∈ folders, f.wantsNamespacePrefix = true → f.Housed) :
    (learned resolver folders).TaughtBy resolver folders := by
  have hrows : ∀ f ∈ folders, ∀ q ns : Path,
      (∃ row ∈ f.taught resolver (filesOf folders), (row.1 == q) = true ∧ (row.2 == ns) = true) ↔
        f.Teaches resolver q ns := by
    intro f hf q ns
    refine Folder.exists_taught_iff fun hwants => firstSpelled_eq_self (filesOf_distinct hi hhoused) ?_
    exact List.mem_map_of_mem (List.mem_filter.2 ⟨hf, hwants⟩)
  refine ⟨hi, hhoused, fun q ns h => ?_, fun f hf q ns h => ?_⟩
  · rw [lookup_learned] at h
    obtain ⟨row, hrow, rfl⟩ := Option.map_eq_some_iff.1 h
    obtain ⟨f, hf, hmem⟩ := List.mem_flatMap.1 (List.mem_of_find?_eq_some hrow)
    have hq : (row.1 == q) = true := List.find?_some (p := fun row : Path × Path => row.1 == q) hrow
    exact ⟨f, hf, (hrows f hf q row.2).1 ⟨row, hmem, hq, BEq.rfl⟩⟩
  · obtain ⟨row, hrow, hq, -⟩ := (hrows f hf q ns).2 h
    rw [lookup_learned, ← Option.isSome_iff_exists, Option.isSome_map, List.find?_isSome]
    exact ⟨row, List.mem_flatMap.2 ⟨f, hf, hrow⟩, hq⟩

/-- **A pass is taught by its folders,** if they have their files inside. -/
theorem taughtBy_namespacesOf (resolver : Resolver) (hi : Independent (declaredFolders folders))
    (hhoused : ∀ f ∈ declaredFolders folders, f.wantsNamespacePrefix = true → f.Housed) :
    (namespacesOf resolver folders).TaughtBy resolver (declaredFolders folders) := by
  have hperm := declaredFolders_sortByPath_perm folders
  have h := taughtBy_learned resolver (independent_sortByPath_iff.2 hi) fun f hf => hhoused f (hperm.mem_iff.1 hf)
  refine ⟨hi, hhoused, fun q ns hq => ?_, fun f hf => h.complete f (hperm.mem_iff.2 hf)⟩
  obtain ⟨f, hf, hteaches⟩ := h.sound q ns hq
  exact ⟨f, hperm.mem_iff.1 hf, hteaches⟩

/-- **Who taught an entry.** About a directory that leads to a folder only folders at or under it have taught. -/
theorem TaughtBy.exists_teacher (h : c.TaughtBy resolver folders) (hq : c.lookup q = some ns) (hd : d ∈ folders)
    (hqd : q.Covers d.path) : ∃ f ∈ folders, q.Covers f.path ∧ f.Teaches resolver q ns := by
  obtain ⟨f, hf, hteaches⟩ := h.sound q ns hq
  refine ⟨f, hf, ?_, hteaches⟩
  -- directory and folder both lie above the folder's file
  rcases hteaches.covers_home.total (h.housed f hf hteaches.wants) with hc | hc
  · exact hc
  · obtain rfl := h.independent.eq_of_covers hf hd (hc.trans hqd)
    exact hqd

/-- What is known about a folder's own directory it taught itself. -/
theorem TaughtBy.teaches_self (h : c.TaughtBy resolver folders) (hf : f ∈ folders)
    (hlookup : c.lookup f.path = some ns) : f.Teaches resolver f.path ns := by
  obtain ⟨g, hg, hfg, hteaches⟩ := h.exists_teacher hlookup hf (.refl _)
  obtain rfl := h.independent.eq_of_covers hf hg hfg
  exact hteaches

/-- About the directory of a folder whose file has no namespace nothing is known. -/
theorem TaughtBy.lookup_eq_none (h : c.TaughtBy resolver folders) (hf : f ∈ folders)
    (hnone : resolver.resolve f.representative = none) : c.lookup f.path = none := by
  cases hlookup : c.lookup f.path with
  | none => rfl
  | some ns =>
    obtain ⟨answer, _, _, hres, -⟩ := (h.teaches_self hf hlookup).names
    exact absurd (hnone.symm.trans hres) nofun

/-- What a folder teaches about its own directory is known. -/
theorem TaughtBy.lookup_self (h : c.TaughtBy resolver folders) (hf : f ∈ folders)
    (hteaches : f.Teaches resolver f.path ns) : ∃ ns', c.lookup f.path = some ns' ∧ ns'.components = ns.components := by
  obtain ⟨ns', hlookup⟩ := h.complete f hf f.path ns hteaches
  exact ⟨ns', hlookup, (h.teaches_self hf hlookup).unique hteaches⟩

/-- A folder without members has the answer that is known about its own directory. -/
theorem TaughtBy.answer_of_lookup (h : c.TaughtBy resolver folders) (hf : f ∈ folders)
    (hmembers : f.members.toList = []) (hlookup : c.lookup f.path = some ns) :
    ∃ answer, resolver.resolve f.representative = some answer ∧ answer.components = ns.components := by
  obtain ⟨answer, words, last, hres, hfile, hanswer⟩ := (h.teaches_self hf hlookup).names
  rw [Folder.components_representative hmembers] at hfile
  have hwords : f.path.components ++ [] = f.path.components ++ words.map .name := by
    rw [List.append_nil]
    exact List.append_inj_left' hfile rfl
  refine ⟨answer, hres, ?_⟩
  rw [hanswer, ← List.append_cancel_left hwords, List.append_nil]

end NamespaceCache

end RootFold
