import RootFold.Proofs.Merge.Assembly
import RootFold.Proofs.Merge.Validity
import RootFold.Proofs.Merge.Walk

/-!
# `RootFold.Proofs.Merge.Outcome` — a pass from its folders to its result

Preparation registers the folders that take part in merging and learns their namespaces; the walks then cannot fail.
What a pass leaves is thereby determined: one folder at each topmost directory that collapses.

## Contents
- **Preparation.** `NamespaceCache.learned`, `Accumulator.holding`, `exists_forM_add`; `Prepared.ofFolders` is what
  `takeIn_eq_ok`, `prepare_eq_ok` and `exists_prepare` are about.
- **Results.** `Collapsed` accumulators; `exists_simplify`, `simplify_of_validate_error`.
- **Folders that are left.** `Condensed` lists of folders; `Collapsed.condensed`, `condensed_of_simplify`.
-/

namespace RootFold

variable {ns : NamespaceCache} {resolver : Resolver} {declared folders : List Folder} {f : Folder} {p q : Path}
  {acc : Accumulator}

/-! ## Preparation -/

/-- **What is known about namespaces** once the folders were registered in their order. -/
def NamespaceCache.learned (resolver : Resolver) (folders : List Folder) : NamespaceCache :=
  folders.foldl (fun c f => (c.register resolver f).1) .empty

theorem declaredFolders_cons_of_isExcluded (h : f.isExcluded = true) :
    declaredFolders (f :: folders) = declaredFolders folders := by
  rw [declaredFolders, List.filter_cons_of_neg (by simp [h])]
  rfl

theorem declaredFolders_cons (h : f.isExcluded = false) :
    declaredFolders (f :: folders) = f :: declaredFolders folders := by
  rw [declaredFolders, List.filter_cons_of_pos (by simp [h])]
  rfl

namespace Intake

variable {s : Intake}

/-- An excluded folder is set aside. -/
theorem add_of_isExcluded (h : f.isExcluded = true) (s : Intake) :
    add resolver f s = .ok () { s with excluded := s.excluded ++ [f] } := by
  rw [add, if_pos h]
  rfl

/-- Any other folder is looked up and then held, which may fail; what was asked stays in the state all the same. -/
theorem add_of_not_isExcluded (h : f.isExcluded = false) (s : Intake) :
    add resolver f s =
      match Accumulator.register s.accumulator f with
      | .error e =>
        .error e { s with
          namespaces := (s.namespaces.register resolver f).1
          notes := s.notes ++ (s.namespaces.register resolver f).2 }
      | .ok accumulator =>
        .ok () { s with
          namespaces := (s.namespaces.register resolver f).1
          accumulator
          notes := s.notes ++ (s.namespaces.register resolver f).2 } := by
  rw [add, if_neg (by simp [h])]
  show (MonadExcept.ofExcept (Accumulator.register s.accumulator f) >>= _ : IntakeM Unit) _ = _
  cases Accumulator.register s.accumulator f with
  | error e => rfl
  | ok accumulator => rfl

/-- It is held, if there is none at its path. -/
theorem add_of_not_contains (h : f.isExcluded = false) (hnew : s.accumulator.contains f.path = false) :
    add resolver f s =
      .ok () { s with
        namespaces := (s.namespaces.register resolver f).1
        accumulator := s.accumulator.insert f.path f
        notes := s.notes ++ (s.namespaces.register resolver f).2 } := by
  rw [add_of_not_isExcluded h, Accumulator.register, if_neg (by simp [hnew])]

end Intake

/-- What an accumulator holds with one more folder at a new path. -/
theorem find?_insert_eq_some_iff {g : Folder} (hnew : acc.contains f.path = false) :
    (PathMap.insert acc f.path f).find? q = some g ↔ acc.find? q = some g ∨ g = f ∧ (f.path == q) = true := by
  rw [PathMap.find?_insert]
  cases hqf : q == f.path with
  | true =>
    have hold : acc.find? q = none := by
      rw [PathMap.find?_congr hqf]
      exact Option.not_isSome_iff_eq_none.1 (by simpa [PathMap.contains] using hnew)
    rw [if_pos rfl, hold]
    constructor
    · intro h
      exact .inr ⟨(Option.some.inj h).symm, BEq.symm hqf⟩
    · rintro (h | ⟨rfl, -⟩)
      · exact absurd h (by simp)
      · rfl
  | false =>
    have hne : ¬ (f.path == q) = true := fun he => by simp [BEq.symm he] at hqf
    rw [if_neg (by simp), or_iff_left fun h => hne h.2]

/-- The folders of an accumulator with some more, each at its own path. -/
def Accumulator.holding (acc : Accumulator) (folders : List Folder) : Accumulator :=
  folders.foldl (fun acc f => acc.insert f.path f) acc

/-- What is held at other paths does not get in the way of a folder. -/
theorem contains_insert_of_not_beq {g : Folder} (hnew : acc.contains g.path = false)
    (hne : ¬ (f.path == g.path) = true) : (PathMap.insert acc f.path f).contains g.path = false := by
  rw [PathMap.contains, PathMap.find?_insert, if_neg fun he => hne (BEq.symm he)]
  exact hnew

/-- **What is held** is what was held before or one of the folders, if these are at different new paths. -/
theorem Accumulator.find?_holding {acc : Accumulator} (hd : Distinct folders)
    (hfree : ∀ f ∈ folders, acc.contains f.path = false) :
    (acc.holding folders).find? q = some f ↔ acc.find? q = some f ∨ f ∈ folders ∧ (f.path == q) = true := by
  induction folders generalizing acc with
  | nil => simp [holding]
  | cons g rest ih =>
    obtain ⟨hfirst, hrest⟩ := List.pairwise_cons.1 hd
    have hnew := hfree g (by simp)
    have hfree' : ∀ h ∈ rest, (PathMap.insert acc g.path g).contains h.path = false := fun h hh =>
      contains_insert_of_not_beq (hfree h (by simp [hh])) (hfirst h hh)
    rw [holding, List.foldl_cons, ← holding, ih hrest hfree', find?_insert_eq_some_iff hnew, or_assoc, List.mem_cons,
      or_and_right]
    refine or_congr_right (or_congr_left (and_congr_right fun he => ?_))
    rw [he]

/-- **Adding folders** at different paths succeeds: excluded ones are set aside in their order, all others are
    registered with their namespaces. -/
theorem exists_forM_add (resolver : Resolver) (hd : Distinct (declaredFolders folders)) {s : Intake}
    (hfree : ∀ f ∈ declaredFolders folders, s.accumulator.contains f.path = false) :
    ∃ notes, folders.forM (Intake.add resolver) s =
      .ok () ⟨⟨s.excluded ++ folders.filter (·.isExcluded),
        (declaredFolders folders).foldl (fun c f => (c.register resolver f).1) s.namespaces,
        s.accumulator.holding (declaredFolders folders)⟩, notes⟩ := by
  induction folders generalizing s with
  | nil => exact ⟨s.notes, by rw [List.filter_nil, List.append_nil]; rfl⟩
  | cons f rest ih =>
    cases hex : f.isExcluded with
    | true =>
      rw [declaredFolders_cons_of_isExcluded hex] at hd hfree ⊢
      obtain ⟨notes, heq⟩ := ih hd (s := { s with excluded := s.excluded ++ [f] }) hfree
      refine ⟨notes, ?_⟩
      rw [forM_cons_ok (Intake.add_of_isExcluded hex s), heq, List.filter_cons_of_pos hex, List.append_assoc,
        List.singleton_append]
    | false =>
      rw [declaredFolders_cons hex] at hd hfree ⊢
      obtain ⟨hfirst, hrest⟩ := List.pairwise_cons.1 hd
      have hnew := hfree f (by simp)
      let next : Intake :=
        { s with
          namespaces := (s.namespaces.register resolver f).1
          accumulator := s.accumulator.insert f.path f
          notes := s.notes ++ (s.namespaces.register resolver f).2 }
      have hfree' : ∀ g ∈ declaredFolders rest, next.accumulator.contains g.path = false := fun g hg =>
        contains_insert_of_not_beq (hfree g (by simp [hg])) (hfirst g hg)
      obtain ⟨notes, heq⟩ := ih hrest hfree'
      refine ⟨notes, ?_⟩
      rw [forM_cons_ok (Intake.add_of_not_contains hex hnew), heq, List.filter_cons_of_neg (by simp [hex])]
      rfl

/-- The namespaces that a pass over some folders knows. -/
def namespacesOf (resolver : Resolver) (folders : List Folder) : NamespaceCache :=
  .learned resolver (declaredFolders (sortByPath folders))

/-- **What preparation makes of folders** that pass the check. -/
def Prepared.ofFolders (resolver : Resolver) (folders : List Folder) : Prepared where
  excluded := (sortByPath folders).filter (·.isExcluded)
  namespaces := namespacesOf resolver folders
  accumulator := Accumulator.holding .empty (declaredFolders (sortByPath folders))

/-- Folders that pass the check are added one after the other. -/
theorem takeIn_eq_forM (h : validate folders = .ok ()) (s : Intake) :
    takeIn resolver folders s = folders.forM (Intake.add resolver) s := by
  have hchecked : (MonadExcept.ofExcept (.ok ()) : IntakeM Unit) s = .ok () s := rfl
  rw [takeIn, h, bind_ok hchecked]

/-- Folders that do not pass the check are not taken in, and nothing is asked about them. -/
theorem takeIn_eq_error {e : Error} (h : validate folders = .error e) (s : Intake) :
    takeIn resolver folders s = .error e s := by
  have hchecked : (MonadExcept.ofExcept (.error e) : IntakeM Unit) s = .error e s := rfl
  rw [takeIn, h, bind_error hchecked]

/-- **Taking in** independent folders succeeds. -/
theorem takeIn_eq_ok (resolver : Resolver) (hi : Independent (declaredFolders folders)) (notes : List Note) :
    ∃ notes', takeIn resolver (sortByPath folders) ⟨.empty, notes⟩ = .ok () ⟨.ofFolders resolver folders, notes'⟩ := by
  have hi' := independent_sortByPath_iff.2 hi
  obtain ⟨notes', heq⟩ :=
    exists_forM_add resolver (independent_iff.1 hi').1 (s := ⟨.empty, notes⟩) fun _ _ => rfl
  refine ⟨notes', ?_⟩
  rw [takeIn_eq_forM (validate_eq_ok_iff.2 hi'), heq]
  rfl

theorem prepare_eq_ok (resolver : Resolver) (hi : Independent (declaredFolders folders)) (notes : List Note) :
    ∃ notes', prepare resolver folders notes = .ok (.ofFolders resolver folders) notes' := by
  obtain ⟨notes', htaken⟩ := takeIn_eq_ok resolver hi notes
  unfold prepare
  rw [htaken]
  exact ⟨_, rfl⟩

theorem registered_ofFolders (resolver : Resolver) (hi : Independent (declaredFolders folders)) :
    Registered (declaredFolders folders) (Prepared.ofFolders resolver folders).accumulator := by
  intro q f
  have hd := (independent_iff.1 (independent_sortByPath_iff.2 hi)).1
  rw [Prepared.ofFolders, Accumulator.find?_holding hd fun _ _ => rfl,
    (declaredFolders_sortByPath_perm folders).mem_iff]
  exact or_iff_right (by simp)

/-- **Preparation succeeds** on independent folders. -/
theorem exists_prepare (resolver : Resolver) (hi : Independent (declaredFolders folders)) (notes : List Note) :
    ∃ p notes', prepare resolver folders notes = .ok p notes' ∧
      p.excluded = (sortByPath folders).filter (·.isExcluded) ∧
      p.namespaces = .learned resolver (declaredFolders (sortByPath folders)) ∧
      Registered (declaredFolders folders) p.accumulator := by
  obtain ⟨notes', heq⟩ := prepare_eq_ok resolver hi notes
  exact ⟨_, notes', heq, rfl, rfl, registered_ofFolders resolver hi⟩

/-! ## Results -/

/-- **What the walks leave:** folders at the topmost directories that collapse, each standing for the declared ones
    below it. -/
structure Collapsed (ns : NamespaceCache) (declared : List Folder) (acc : Accumulator) : Prop where
  faithful : Faithful declared acc
  held : ∀ q, acc.contains q = true ↔ Topmost ns declared q

/-- **A pass succeeds** on independent folders; its result is the excluded folders and what the walks leave. -/
theorem exists_simplify (resolver : Resolver) (hi : Independent (declaredFolders folders)) :
    ∃ acc, simplify resolver folders = .ok (.assemble ((sortByPath folders).filter (·.isExcluded)) acc) ∧
      Collapsed (namespacesOf resolver folders) (declaredFolders folders) acc := by
  obtain ⟨p, notes, hprep, hexcluded, hns, hreg⟩ := exists_prepare resolver hi []
  obtain ⟨s, hwalk, hfaithful, hheld⟩ := exists_walkAll (namespacesOf resolver folders) hi hreg notes
  refine ⟨s.accumulator, ?_, hfaithful, hheld⟩
  rw [simplify, runPass, hprep]
  simp only
  rw [hns, ← namespacesOf, hwalk, hexcluded]

/-- A pass fails in the check, or not at all. -/
theorem simplify_of_validate_error {e : Error} (h : validate (sortByPath folders) = .error e) :
    simplify resolver folders = .error e := by
  have hprep : prepare resolver folders [] = .error e [] := by
    rw [prepare, takeIn_eq_error h]
  rw [simplify, runPass, hprep]

theorem independent_of_simplify {out : Simplified} (h : simplify resolver folders = .ok out) :
    Independent (declaredFolders folders) := by
  rw [← independent_sortByPath_iff, ← validate_eq_ok_iff]
  cases hval : validate (sortByPath folders) with
  | ok => rfl
  | error e => exact absurd (h.symm.trans (simplify_of_validate_error hval)) (by simp)

/-- **The result of a pass that succeeds.** -/
theorem simplify_eq_ok {out : Simplified} (h : simplify resolver folders = .ok out) :
    ∃ acc, out = .assemble ((sortByPath folders).filter (·.isExcluded)) acc ∧
      Collapsed (namespacesOf resolver folders) (declaredFolders folders) acc := by
  obtain ⟨acc, heq, hacc⟩ := exists_simplify resolver (independent_of_simplify h)
  exact ⟨acc, Except.ok.inj (h.symm.trans heq), hacc⟩

/-! ## Folders that are left -/

/-- **Above every directory that collapses** there is a topmost one. -/
theorem exists_topmost {q : Path} (hq : Occupied declared q) (hc : Collapsible ns declared q) :
    ∃ t, Topmost ns declared t ∧ t.Covers q := by
  cases hpar : q.parentDir? with
  | none =>
    refine ⟨q, ⟨hq, hc, fun m hm => ?_⟩, .refl q⟩
    obtain ⟨k, hk, -⟩ := hm
    exact absurd (hpar.symm.trans hk) (by simp)
  | some m =>
    have hlies : q.LiesIn m := .of_parentDir? hpar
    -- climb as long as the directory above collapses
    by_cases hm : Collapsible ns declared m
    · obtain ⟨t, ht, htm⟩ := exists_topmost (hq.of_covers hlies.covers) hm
      exact ⟨t, ht, htm.trans hlies.covers⟩
    · exact ⟨q, ⟨hq, hc, fun k hk hck => hm ((Collapsible.congr (hk.beq hlies)).1 hck)⟩, .refl q⟩
termination_by q.components.length
decreasing_by exact Path.length_components_of_parentDir? hpar

/-- Topmost directories do not cover one another. -/
theorem Topmost.beq_of_covers (hp : Topmost ns declared p) (hq : Topmost ns declared q) (h : p.Covers q) :
    (p == q) = true := by
  rcases Path.covers_iff_parentDir?.1 h with he | ⟨m, hm, hpm⟩
  · exact he
  · exact absurd (hp.collapsible.of_covers hpm) (hq.top m (.of_parentDir? hm))

/-- **Folders in the place of declared ones:** one at each topmost directory that collapses, standing for what was
    declared there. -/
structure Condensed (ns : NamespaceCache) (declared merged : List Folder) : Prop where
  independent : Independent merged
  topmost : ∀ f ∈ merged, Topmost ns declared f.path
  complete : ∀ q, Topmost ns declared q → ∃ f ∈ merged, (f.path == q) = true
  represents : ∀ f ∈ merged, Represents declared f
  itself : ∀ f ∈ merged, ∀ d ∈ declared, (d.path == f.path) = true → f = d

/-- **A directory that collapses** is at or under a folder that is left. -/
theorem Condensed.exists_covers {merged : List Folder} (h : Condensed ns declared merged) (hq : Occupied declared q)
    (hcol : Collapsible ns declared q) : ∃ o ∈ merged, o.path.Covers q := by
  obtain ⟨t, ht, htq⟩ := exists_topmost hq hcol
  obtain ⟨o, ho, hot⟩ := h.complete t ht
  exact ⟨o, ho, (Path.Covers.of_beq hot).trans htq⟩

/-- **A declared folder has one place** among the folders that are left. -/
theorem Condensed.existsUnique_covers {merged : List Folder} {d : Folder} (h : Condensed ns declared merged)
    (hi : Independent declared) (hd : d ∈ declared) : ∃! o, o ∈ merged ∧ o.path.Covers d.path := by
  obtain ⟨o, ho, hod⟩ := h.exists_covers ⟨d, hd, .refl d.path⟩ (hi.collapsible hd)
  refine ⟨o, ⟨ho, hod⟩, ?_⟩
  rintro o' ⟨ho', hod'⟩
  -- what covers one directory lies in a chain, and two folders that are left are never in one
  rcases hod'.total hod with hc | hc
  · exact h.independent.eq_of_covers ho' ho hc
  · exact (h.independent.eq_of_covers ho ho' hc).symm

/-- Values follow their keys, which are in strict order. -/
theorem Faithful.values_sorted (h : Faithful declared acc) : acc.values.Pairwise fun f g => f.path < g.path := by
  have hkey : ∀ e ∈ acc.entries, (e.2.path == e.1) = true := fun e he =>
    h.path e.1 e.2 (PathMap.find?_eq_some_iff.2 ⟨e.1, he, BEq.rfl⟩)
  refine List.pairwise_map.2 (acc.sorted.imp_of_mem fun {a b} ha hb hab => ?_)
  exact Path.lt_of_beq_of_lt (hkey a ha) (Path.lt_of_lt_of_beq hab (BEq.symm (hkey b hb)))

/-- What the walks leave is condensed. -/
theorem Collapsed.condensed (h : Collapsed ns declared acc) : Condensed ns declared acc.values := by
  have hvalue : ∀ f ∈ acc.values, acc.find? f.path = some f := by
    intro f hf
    obtain ⟨q, hq⟩ := PathMap.mem_values_iff.1 hf
    rwa [PathMap.find?_congr (h.faithful.path q f hq)]
  have htopmost : ∀ f ∈ acc.values, Topmost ns declared f.path := fun f hf =>
    (h.held f.path).1 (PathMap.contains_iff.2 ⟨f, hvalue f hf⟩)
  refine ⟨?_, htopmost, fun q hq => ?_, fun f hf => h.faithful.represents _ f (hvalue f hf),
    fun f hf => h.faithful.itself _ f (hvalue f hf)⟩
  · refine h.faithful.values_sorted.imp_of_mem fun {f g} hf hg hlt => ⟨fun hc => ?_, fun hc => ?_⟩
    · exact Path.not_beq_of_lt hlt ((htopmost f hf).beq_of_covers (htopmost g hg) hc)
    · exact Path.not_beq_of_lt hlt (BEq.symm ((htopmost g hg).beq_of_covers (htopmost f hf) hc))
  · obtain ⟨f, hf⟩ := PathMap.contains_iff.1 ((h.held q).2 hq)
    exact ⟨f, PathMap.mem_values_iff.2 ⟨q, hf⟩, h.faithful.path q f hf⟩

/-- A folder that stands for declared ones takes part in merging, as they do. -/
theorem Condensed.not_isExcluded {merged : List Folder} (h : Condensed ns (declaredFolders folders) merged)
    (hf : f ∈ merged) : f.isExcluded = false := by
  obtain ⟨d, hd, hfd⟩ := (h.topmost f hf).occupied
  have hkind := ((h.represents f hf).agrees d hd hfd).1
  have hdecl := (List.mem_filter.1 hd).2
  rw [Folder.isExcluded, ← hkind]
  simpa [Folder.isExcluded] using hdecl

/-- **The two parts of a result:** the excluded folders by path, and what the walks left. -/
theorem Collapsed.assemble (h : Collapsed ns (declaredFolders folders) acc) :
    (Simplified.assemble ((sortByPath folders).filter (·.isExcluded)) acc).excluded =
        (sortByPath folders).filter (·.isExcluded) ∧
      (Simplified.assemble ((sortByPath folders).filter (·.isExcluded)) acc).merged = acc.values := by
  have hex : ∀ f ∈ (sortByPath folders).filter (·.isExcluded), f.isExcluded = true := fun f hf =>
    (List.mem_filter.1 hf).2
  have hacc : ∀ f ∈ acc.values, f.isExcluded = false := fun f hf => h.condensed.not_isExcluded hf
  have hsorted : acc.values.Pairwise fun a b => Simplified.folderLe a b = true :=
    h.faithful.values_sorted.imp fun hlt => Simplified.folderLe_iff.2 (.inl hlt)
  exact ⟨Simplified.excluded_assemble (excluded_sorted folders) hex hacc,
    Simplified.merged_assemble hsorted hex hacc⟩

/-- The excluded folders of a result are those that were put in, by path. -/
theorem excluded_of_simplify {out : Simplified} (h : simplify resolver folders = .ok out) :
    out.excluded = (sortByPath folders).filter (·.isExcluded) := by
  obtain ⟨acc, rfl, hacc⟩ := simplify_eq_ok h
  exact hacc.assemble.1

/-- **A result of a pass is condensed.** -/
theorem condensed_of_simplify {out : Simplified} (h : simplify resolver folders = .ok out) :
    Condensed (namespacesOf resolver folders) (declaredFolders folders) out.merged := by
  obtain ⟨acc, rfl, hacc⟩ := simplify_eq_ok h
  rw [hacc.assemble.2]
  exact hacc.condensed

end RootFold
