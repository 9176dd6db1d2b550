import RootFold.Proofs.Namespace.Teaching
import RootFold.Proofs.Pass.Idempotence

/-!
# `RootFold.Proofs.Pass.Repetition` — a second pass changes nothing, whatever the namespaces are

A merged folder keeps the members of those that it stands for, and is looked up through the first of them. So with
members inside their folders the second pass asks about some of the files of the first one, and about no others: it
learns less, and the first to write about a directory may be another folder than before. But where a directory
collapses in the second pass, both passes know the same: what is known about a folder that is left is in both what its
file teaches, and from there the steps lead back up to what is known about the directory.

## Contents
- **Files.** `Condensed.exists_same_file`: which files the second pass asks about. `TeachNothingNew` is what
  follows from the answers.
- **Lookups.** `TaughtBy.lookup_of_aligned`; `Condensed.lookup_of_collapsible`: both passes know the same.
- **Results.** `simplify_again`, whose condition `Condensed.collapsible_of_teachNothingNew` meets;
  `simplify_idempotent`.
-/

namespace RootFold

variable {resolver resolver' : Resolver} {ns ns' : NamespaceCache} {declared merged folders : List Folder}
  {d f g o : Folder} {m x y n v : Path}

/-! ## Files -/

/-- A folder without members stands for folders without members. -/
theorem Represents.members_eq_nil (h : Represents declared o) (ho : o.members.toList = []) (hd : d ∈ declared)
    (hod : o.path.Covers d.path) : d.members.toList = [] := by
  refine List.eq_nil_iff_forall_not_mem.2 fun x hx => ?_
  have hcontains : o.members.contains x = true :=
    (h.members x).2 ⟨d, hd, hod, PathSet.contains_iff_toList.2 ⟨x, hx, BEq.rfl⟩⟩
  obtain ⟨first, hfirst⟩ := PathSet.exists_head? hcontains
  exact absurd (ho ▸ List.mem_of_head? hfirst) List.not_mem_nil

/-- **The file of a folder with members** is the file of one of those that it stands for. -/
theorem Condensed.exists_same_file (h : Condensed ns declared merged) (ho : o ∈ merged)
    (hmembers : o.members.toList ≠ []) : ∃ d ∈ declared, o.path.Covers d.path ∧
      d.wantsNamespacePrefix = o.wantsNamespacePrefix ∧ d.representative = o.representative := by
  obtain ⟨first, rest, hlist⟩ := List.exists_cons_of_ne_nil hmembers
  have hfirst : o.members.toList.head? = some first := by rw [hlist]; rfl
  obtain ⟨d, hd, hod, hfirst'⟩ := (h.represents o ho).exists_first hfirst
  refine ⟨d, hd, hod, ((h.represents o ho).agrees d hd hod).2, ?_⟩
  rw [Folder.representative, Folder.representative, hfirst, hfirst']
  rfl

/-- **The file of a folder that is left** is the file of one that it stands for, if those have members. -/
theorem Condensed.exists_representative (h : Condensed ns declared merged)
    (hmembers : ∀ f ∈ declared, f.wantsNamespacePrefix = true → f.members.toList ≠ []) (ho : o ∈ merged)
    (hwants : o.wantsNamespacePrefix = true) :
    ∃ d ∈ declared, o.path.Covers d.path ∧ d.wantsNamespacePrefix = true ∧ d.representative = o.representative := by
  obtain ⟨d, hd, hod⟩ := (h.topmost o ho).occupied
  have hne : o.members.toList ≠ [] := by
    intro hnil
    have hflag := ((h.represents o ho).agrees d hd hod).2.trans hwants
    exact hmembers d hd hflag ((h.represents o ho).members_eq_nil hnil hd hod)
  obtain ⟨d', hd', hod', hflag', hfile⟩ := h.exists_same_file ho hne
  exact ⟨d', hd', hod', hflag'.trans hwants, hfile⟩

/-- A folder teaches what another one with the same file teaches. -/
theorem Folder.Teaches.of_representative (h : f.Teaches resolver x n) (hwants : g.wantsNamespacePrefix = true)
    (hfile : g.representative = f.representative) : g.Teaches resolver x n :=
  ⟨hwants, h.nonempty, hfile ▸ h.names⟩

/-- **The folders that are left teach nothing new:** what one of them teaches, if there is a directory above it at all,
    one of those that it stands for has taught. -/
def TeachNothingNew (resolver : Resolver) (declared merged : List Folder) : Prop :=
  ∀ o ∈ merged, o.path.parentDir? ≠ none → ∀ x n : Path, o.Teaches resolver x n →
    ∃ d ∈ declared, o.path.Covers d.path ∧ d.Teaches resolver x n

/-- Folders with the files of others teach what these others have taught. -/
theorem Condensed.teachNothingNew (h : Condensed ns declared merged)
    (hmembers : ∀ f ∈ declared, f.wantsNamespacePrefix = true → f.members.toList ≠ []) :
    TeachNothingNew resolver declared merged := by
  intro o ho _ x n hteaches
  obtain ⟨d, hd, hod, hwants, hfile⟩ := h.exists_representative hmembers ho hteaches.wants
  exact ⟨d, hd, hod, hteaches.of_representative hwants hfile⟩

/-- **The folders that are left have their files inside,** if the declared ones have. -/
theorem Condensed.housed (h : Condensed ns declared merged)
    (hmembers : ∀ f ∈ declared, f.wantsNamespacePrefix = true → f.members.toList ≠ [])
    (hhoused : ∀ f ∈ declared, f.wantsNamespacePrefix = true → f.Housed) (ho : o ∈ merged)
    (hwants : o.wantsNamespacePrefix = true) : o.Housed := by
  obtain ⟨d, hd, hod, hwants', hfile⟩ := h.exists_representative hmembers ho hwants
  have hhome : d.home = o.home := by rw [Folder.home, Folder.home, hfile]
  exact hod.trans (hhome ▸ hhoused d hd hwants')

/-! ## Lookups -/

/-- **Below which namespaces follow the directories,** there is known what any folder below teaches. -/
theorem NamespaceCache.TaughtBy.lookup_of_aligned (h : ns.TaughtBy resolver declared) (hal : Aligned ns declared y)
    (hf : f ∈ declared) (hyf : y.Covers f.path) (hteaches : f.Teaches resolver y n) :
    ∃ known, ns.lookup y = some known ∧ known.components = n.components := by
  obtain ⟨known, hknown⟩ := h.complete f hf y n hteaches
  refine ⟨known, hknown, ?_⟩
  -- the folder's own directory lies as far below what it teaches as below what is known
  obtain ⟨own, tail, hown, hpath, htail⟩ := hteaches.inward hyf (h.housed f hf hteaches.wants)
  obtain ⟨l, hl, hlown⟩ := h.lookup_self hf hown
  obtain ⟨l', names, steps, hl', hnames, hsteps, hlen⟩ :=
    hal.exists_lookup hknown hf hteaches.wants hyf (.refl _)
  obtain rfl : l = l' := Option.some.inj (hl.symm.trans hl')
  obtain rfl : tail = names := List.append_cancel_left (hpath.symm.trans hnames)
  exact List.append_inj_left' (hsteps.symm.trans (hlown.trans htail)) hlen

/-- **Where a directory collapses in the second pass,** both passes know the same about the directories from there
    down to the folders that are left. -/
theorem Condensed.lookup_of_collapsible (h : Condensed ns declared merged) (hi : Independent declared)
    (hnew : TeachNothingNew resolver declared merged) (hns : ns.TaughtBy resolver declared)
    (hns' : ns'.TaughtBy resolver merged) (hal : Aligned ns' merged x)
    (habove : ∀ g ∈ merged, x.Covers g.path → g.path.parentDir? ≠ none) (ho : o ∈ merged) (hxo : x.Covers o.path)
    (hlookup : ns'.lookup x = some v) :
    ∃ known, ns.lookup x = some known ∧ known.components = v.components := by
  -- some folder taught the first pass about the directory, perhaps another one than the second
  obtain ⟨g, hg, hxg, hgteaches⟩ := hns'.exists_teacher hlookup ho hxo
  obtain ⟨d, hd, hgd, hdteaches⟩ := hnew g hg (habove g hg hxg) x v hgteaches
  obtain ⟨known, hknown⟩ := hns.complete d hd x v hdteaches
  obtain ⟨f, hf, hxf, hfteaches⟩ := hns.exists_teacher hknown hd (hxg.trans hgd)
  refine ⟨known, hknown, ?_⟩
  obtain ⟨o', ⟨ho', hof⟩, -⟩ := h.existsUnique_covers hi hf
  have hxo' : x.Covers o'.path := by
    rcases hxf.total hof with hc | hc
    · exact hc
    · obtain rfl := h.independent.eq_of_covers ho' ho (hc.trans hxo)
      exact hxo
  have hwants : o'.wantsNamespacePrefix = true := ((h.represents o' ho').agrees f hf hof).2 ▸ hfteaches.wants
  have hal' : Aligned ns declared o'.path := (h.topmost o' ho').collapsible.aligned
  -- in the first pass the folder that is left lies below what that folder taught,
  obtain ⟨upper, tail, hupper, hpath, htail⟩ :=
    hfteaches.inward hxo' (hof.trans (hns.housed f hf hfteaches.wants))
  obtain ⟨l, hl, hlupper⟩ := hns.lookup_of_aligned hal' hf hof hupper
  -- and in the second below what is known now
  obtain ⟨l', names, steps, hl', hnames, hsteps, hlen⟩ := hal.exists_lookup hlookup ho' hwants hxo' (.refl _)
  obtain ⟨d', hd', hod', hteaches'⟩ := hnew o' ho' (habove o' ho' hxo') _ _ (hns'.teaches_self ho' hl')
  obtain ⟨l'', hl'', hsame⟩ := hns.lookup_of_aligned hal' hd' hod' hteaches'
  obtain rfl : l = l'' := Option.some.inj (hl.symm.trans hl'')
  obtain rfl : tail = names := List.append_cancel_left (hpath.symm.trans hnames)
  exact List.append_inj_left' ((hlupper.trans htail).symm.trans (hsame.trans hsteps)) hlen.symm

/-- Where a step leads down to a folder that is left, no folder that is left is at the top. -/
theorem Condensed.parentDir?_ne_none (h : Condensed ns declared merged) (hyx : y.LiesIn x) (hg : g ∈ merged)
    (hyg : y.Covers g.path) (ho : o ∈ merged) (hxo : x.Covers o.path) : o.path.parentDir? ≠ none := by
  intro htop
  have hox : o.path.Covers x := .of_beq (BEq.symm (beq_of_covers_root htop hxo))
  obtain rfl := h.independent.eq_of_covers ho hg (hox.trans (hyx.covers.trans hyg))
  exact hyx.not_covers (hyg.trans hox)

/-- **What collapses above a folder that is left** would have collapsed before, if the folders that are left teach
    nothing new. -/
theorem Condensed.collapsible_of_teachNothingNew (h : Condensed ns declared merged) (hi : Independent declared)
    (hnew : TeachNothingNew resolver declared merged) (hns : ns.TaughtBy resolver declared)
    (hns' : ns'.TaughtBy resolver merged) (ho : o ∈ merged) (hm : o.path.LiesIn m)
    (hcol : Collapsible ns' merged m) : Collapsible ns declared m := by
  refine h.collapsible_of_follows hi ho hm hcol fun g hg _ x c hmx hcx hcg hfollows => ?_
  obtain ⟨u, l, hu, hl, hne, tail, htail, hlen⟩ := hfollows
  have hal : Aligned ns' merged x := (hcol.of_covers hmx).aligned
  have hal' : Aligned ns' merged c := (hcol.of_covers (hmx.trans hcx.covers)).aligned
  have habove : ∀ o' ∈ merged, x.Covers o'.path → o'.path.parentDir? ≠ none := fun o' ho' hxo' =>
    h.parentDir?_ne_none hcx hg hcg ho' hxo'
  obtain ⟨u', hu', hsame⟩ :=
    h.lookup_of_collapsible hi hnew hns hns' hal habove hg (hcx.covers.trans hcg) hu
  obtain ⟨l', hl', hsame'⟩ := h.lookup_of_collapsible hi hnew hns hns' hal'
    (fun o' ho' hco' => habove o' ho' (hcx.covers.trans hco')) hg hcg hl
  exact ⟨u', l', hu', hl', hsame ▸ hne, tail, hsame'.trans (htail.trans (hsame ▸ rfl)), hlen⟩

/-- **What collapses above a folder that is left** would have collapsed before, if the folders that are left have the
    files of others. -/
theorem Condensed.collapsible_of_taught (h : Condensed ns declared merged) (hi : Independent declared)
    (hmembers : ∀ f ∈ declared, f.wantsNamespacePrefix = true → f.members.toList ≠ [])
    (hns : ns.TaughtBy resolver declared) (hns' : ns'.TaughtBy resolver merged) (ho : o ∈ merged)
    (hm : o.path.LiesIn m) (hcol : Collapsible ns' merged m) : Collapsible ns declared m :=
  h.collapsible_of_teachNothingNew hi (h.teachNothingNew hmembers) hns hns' ho hm hcol

/-! ## Results -/

/-- **A pass over a result** changes nothing, if nothing collapses above the folders that are left that did not
    collapse before. It may have a resolver of its own. -/
theorem simplify_again {out : Simplified} (h : simplify resolver folders = .ok out)
    (hcol : ∀ o ∈ out.merged, ∀ m : Path, o.path.LiesIn m →
      Collapsible (namespacesOf resolver' out.folders) out.merged m →
      Collapsible (namespacesOf resolver folders) (declaredFolders folders) m) :
    simplify resolver' out.folders = .ok out := by
  have hcond := condensed_of_simplify h
  have hi : Independent (declaredFolders out.folders) := hcond.independent
  have htop : ∀ o ∈ out.merged, Topmost (namespacesOf resolver' out.folders) out.merged o.path := fun o ho =>
    ⟨⟨o, ho, .refl _⟩, hi.collapsible ho, fun m hm hc => (hcond.topmost o ho).top m hm (hcol o ho m hm hc)⟩
  obtain ⟨acc, rfl, hacc⟩ := simplify_eq_ok h
  obtain ⟨acc', heq, hacc'⟩ := exists_simplify resolver' hi
  obtain ⟨hexcluded, hmerged⟩ := hacc.assemble
  -- the same folders in the order of their paths, behind the same excluded ones
  have hperm := hacc'.condensed.perm_of_topmost hi htop
  have hvalues : acc'.values = acc.values := by
    refine List.Perm.eq_of_pairwise (fun a b _ _ hab hba => absurd (Path.lt_trans hab hba) (Path.lt_irrefl _))
      hacc'.faithful.values_sorted hacc.faithful.values_sorted ?_
    rw [← hmerged]
    exact hperm
  rw [heq, Simplified.sortByPath_folders, Simplified.assemble, hvalues]
  exact congrArg (fun ex => Except.ok (Simplified.assemble ex acc)) hexcluded

/-- **Idempotence.** If every folder that wants a prefix has members, all of them further inside, then a pass over the
    result of a pass succeeds with the same folders in the same order, whatever the resolver answers. -/
theorem simplify_idempotent {out : Simplified}
    (hinside : ∀ f ∈ declaredFolders folders, f.wantsNamespacePrefix = true →
      f.members.toList ≠ [] ∧ ∀ x ∈ f.members.toList, ∃ a ∈ x.ancestors, (f.path == a) = true)
    (h : simplify resolver folders = .ok out) : simplify resolver out.folders = .ok out := by
  have hi := independent_of_simplify h
  have hcond := condensed_of_simplify h
  have hmembers : ∀ f ∈ declaredFolders folders, f.wantsNamespacePrefix = true → f.members.toList ≠ [] :=
    fun f hf hwants => (hinside f hf hwants).1
  have hhoused : ∀ f ∈ declaredFolders folders, f.wantsNamespacePrefix = true → f.Housed := fun f hf hwants =>
    Folder.housed_of_members (hmembers f hf hwants) (hinside f hf hwants).2
  have hns := NamespaceCache.taughtBy_namespacesOf resolver hi hhoused
  have hns' : (namespacesOf resolver out.folders).TaughtBy resolver out.merged :=
    NamespaceCache.taughtBy_namespacesOf resolver hcond.independent fun o ho hwants =>
      hcond.housed hmembers hhoused ho hwants
  exact simplify_again h fun o ho m hm hc => hcond.collapsible_of_taught hi hmembers hns hns' ho hm hc

/-- Two folders with a member each, one of the members further inside. -/
def insideMembers : List Folder :=
  [{ Folder.ofKind .source (.ofText "src/left") with members := PathSet.empty.insert (.ofText "src/left/main") },
    { Folder.ofKind .source (.ofText "src/right") with members := PathSet.empty.insert (.ofText "src/right/io/main") }]

/-- The namespaces of these members. -/
def insideMembersTable : Resolver :=
  .mapped (.ofList [(.ofText "src/left", .ofText "app/left"), (.ofText "src/right/io", .ofText "app/right/io")])

theorem simplify_idempotent_insideMembers :
    ∃ out, simplify insideMembersTable insideMembers = .ok out ∧
      simplify insideMembersTable out.folders = .ok out := by
  have hi : Independent (declaredFolders insideMembers) := independent_of_not_prefix (by decide)
  obtain ⟨acc, heq, -⟩ := exists_simplify insideMembersTable hi
  have hbelow : ∀ f ∈ declaredFolders insideMembers, f.members.toList ≠ [] ∧ ∀ x ∈ f.members.toList,
      (f.path.components <+: x.components ∧ (f.path.components = [] → x.components = [])) ∧
        ¬ (f.path == x) = true := by decide
  refine ⟨_, heq, simplify_idempotent (fun f hf _ => ?_) heq⟩
  obtain ⟨hne, hbelow⟩ := hbelow f hf
  exact ⟨hne, fun x hx => (Path.covers_iff.2 (hbelow x hx).1).resolve_left (hbelow x hx).2⟩

end RootFold
