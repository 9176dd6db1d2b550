import RootFold.Manifest.Scan
import RootFold.Proofs.Pass.Evaluation
import RootFold.Proofs.Pass.Repetition

/-!
# `RootFold.Proofs.Pass.TableRepetition` — a second pass with a manifest's own namespaces

A manifest gives namespaces to directories, and every other directory is its own namespace. A merged folder without
members is looked up through a placeholder in a directory that the manifest need not know: there the second pass reads
the directory's own name where the first one had learned a namespace from below, and it may merge further. What it
leaves is still in the place of what the first pass left. If merged directories are named like those below them, and
members lie inside their folders, then the second pass learns nothing new and changes nothing.

## Contents
- **Names.** `Folder.NamedLike`; `Condensed.teachNothingNew_of_named`.
- **Results.** `exists_simplify_again`, `simplify_table_again`.
- **Passes that go on.** `not_idempotent_of_table`: neither condition can be left out.
-/

namespace RootFold

variable {resolver : Resolver} {ns : NamespaceCache} {declared merged folders : List Folder} {o d : Folder}

/-! ## Names -/

/-- **A folder is named like one below it:** the resolver's answer for the lower one is that for the upper one with as
    many steps behind it as lie between their directories. -/
def Folder.NamedLike (resolver : Resolver) (o d : Folder) : Prop :=
  ∃ own answer, resolver.resolve o.representative = some own ∧ resolver.resolve d.representative = some answer ∧
    ∃ tail, answer.components = own.components ++ tail ∧
      o.path.components.length + tail.length = d.path.components.length

/-- The folders that are left have their files inside, if the declared ones have. -/
theorem Condensed.housed_of_housed (h : Condensed ns declared merged)
    (hhoused : ∀ f ∈ declared, f.wantsNamespacePrefix = true → f.Housed) (ho : o ∈ merged)
    (hwants : o.wantsNamespacePrefix = true) : o.Housed := by
  by_cases hmembers : o.members.toList = []
  · exact Folder.housed_of_no_members hmembers
  · obtain ⟨d, hd, hod, hflag, hfile⟩ := h.exists_same_file ho hmembers
    have hhome : d.home = o.home := by rw [Folder.home, Folder.home, hfile]
    exact hod.trans (hhome ▸ hhoused d hd (hflag.trans hwants))

/-- **A merged folder that is named like one below it** has for its namespace what is known about its directory. -/
theorem Condensed.lookup_of_namedLike (h : Condensed ns declared merged) (hns : ns.TaughtBy resolver declared)
    (ho : o ∈ merged) (hmembers : o.members.toList = []) (hwants : o.wantsNamespacePrefix = true) (hd : d ∈ declared)
    (hod : o.path.Covers d.path) (hne : ¬ (o.path == d.path) = true) (hnamed : o.NamedLike resolver d) :
    ∃ known own, ns.lookup o.path = some known ∧ resolver.resolve o.representative = some own ∧
      known.components = own.components := by
  have hflag : d.wantsNamespacePrefix = true := ((h.represents o ho).agrees d hd hod).2.trans hwants
  have hal := (h.topmost o ho).collapsible.aligned
  obtain ⟨known, l, hknown, hl, -, steps, hsteps, hlen⟩ := hal.follows hd hflag (.refl _) hod hne (.refl _)
  obtain ⟨own, answer, hown, hanswer, tail, htail, hlen'⟩ := hnamed
  obtain ⟨answer', hanswer', hsame⟩ :=
    hns.answer_of_lookup hd ((h.represents o ho).members_eq_nil hmembers hd hod) hl
  obtain rfl : answer = answer' := Option.some.inj (hanswer.symm.trans hanswer')
  refine ⟨known, own, hknown, hown, ?_⟩
  -- both are what is left of one answer when equally many steps are taken off
  exact List.append_inj_left' (hsteps.symm.trans (hsame.symm.trans htail)) (by omega)

/-- **Folders that are named like those below them** teach nothing new. -/
theorem Condensed.teachNothingNew_of_named (h : Condensed ns declared merged) (hns : ns.TaughtBy resolver declared)
    (hnamed : ∀ o ∈ merged, o.wantsNamespacePrefix = true → o.members.toList = [] → o.path.parentDir? ≠ none →
      ∃ d ∈ declared, o.path.Covers d.path ∧ o.NamedLike resolver d) : TeachNothingNew resolver declared merged := by
  intro o ho habove x n hteaches
  by_cases hmembers : o.members.toList = []
  · obtain ⟨d, hd, hod, hlike⟩ := hnamed o ho hteaches.wants hmembers habove
    by_cases he : (o.path == d.path) = true
    · -- the folder itself was declared
      obtain rfl := h.itself o ho d hd (BEq.symm he)
      exact ⟨o, hd, hod, hteaches⟩
    · obtain ⟨known, own, hknown, hown, hsame⟩ := h.lookup_of_namedLike hns ho hmembers hteaches.wants hd hod he hlike
      -- whoever taught what is known about the directory taught the same further up
      obtain ⟨f, hf, hof, hfteaches⟩ := hns.exists_teacher hknown hd hod
      obtain ⟨answer, words, last, hanswer, hfile, hcomponents⟩ := hteaches.names
      obtain rfl : own = answer := Option.some.inj (hown.symm.trans hanswer)
      rw [Folder.components_representative hmembers] at hfile
      refine ⟨f, hf, hof, hfteaches.outward words hteaches.nonempty (List.append_inj_left' hfile rfl) ?_⟩
      rw [hsame, hcomponents]
  · obtain ⟨d, hd, hod, hflag, hfile⟩ := h.exists_same_file ho hmembers
    exact ⟨d, hd, hod, hteaches.of_representative (hflag.trans hteaches.wants) hfile⟩

/-! ## Results -/

/-- **A second pass** succeeds, whatever its resolver answers. It keeps the excluded folders, and what it leaves is in
    the place of what the first pass left. -/
theorem exists_simplify_again (resolver' : Resolver) {out : Simplified} (h : simplify resolver folders = .ok out) :
    ∃ again, simplify resolver' out.folders = .ok again ∧ again.excluded = out.excluded ∧
      Condensed (namespacesOf resolver' out.folders) out.merged again.merged := by
  have hi : Independent (declaredFolders out.folders) := (condensed_of_simplify h).independent
  obtain ⟨acc', heq, hacc'⟩ := exists_simplify resolver' hi
  refine ⟨_, heq, ?_, condensed_of_simplify heq⟩
  obtain ⟨acc, rfl, -⟩ := simplify_eq_ok h
  rw [hacc'.assemble.1, Simplified.sortByPath_folders]
  rfl

/-- **Repetition with a table.** Let a pass over any folders succeed with the namespaces of a manifest. A second one
    succeeds too and keeps the excluded folders; each folder of the first result is covered by exactly one folder of the
    second, which has the kind, the flag and all the members of those that it covers. And the second result is the
    first, folder by folder, if the members of folders that want a prefix lie inside them, and every folder of the first
    result that wants a prefix, has no members and has a directory above it is named like a declared one that it
    stands for. -/
theorem simplify_table_again (m : Manifest) {out : Simplified} (h : simplify m.resolver folders = .ok out) :
    (∃ again, simplify m.resolver out.folders = .ok again ∧ again.excluded = out.excluded ∧
      (∀ o ∈ out.merged, ∃! a, a ∈ again.merged ∧ a.path.Covers o.path) ∧
      ∀ a ∈ again.merged, Represents out.merged a) ∧
    ((∀ f ∈ declaredFolders folders, f.wantsNamespacePrefix = true →
        ∀ x ∈ f.members.toList, ∃ a ∈ x.ancestors, (f.path == a) = true) →
      (∀ o ∈ out.merged, o.wantsNamespacePrefix = true → o.members.toList = [] → o.path.parentDir? ≠ none →
        ∃ d ∈ declaredFolders folders, o.path.Covers d.path ∧ o.NamedLike m.resolver d) →
      simplify m.resolver out.folders = .ok out) := by
  have hi := independent_of_simplify h
  have hcond := condensed_of_simplify h
  constructor
  · obtain ⟨again, heq, hexcluded, hcond'⟩ := exists_simplify_again m.resolver h
    exact ⟨again, heq, hexcluded, fun o ho => hcond'.existsUnique_covers hcond.independent ho, hcond'.represents⟩
  · intro hinside hnamed
    have hhoused : ∀ f ∈ declaredFolders folders, f.wantsNamespacePrefix = true → f.Housed := fun f hf hwants =>
      Folder.housed_of_inside (hinside f hf hwants)
    have hns := NamespaceCache.taughtBy_namespacesOf m.resolver hi hhoused
    have hns' : (namespacesOf m.resolver out.folders).TaughtBy m.resolver out.merged :=
      NamespaceCache.taughtBy_namespacesOf m.resolver hcond.independent fun o ho hwants =>
        hcond.housed_of_housed hhoused ho hwants
    have hnew := hcond.teachNothingNew_of_named hns hnamed
    exact simplify_again h fun o ho q hq hcol => hcond.collapsible_of_teachNothingNew hi hnew hns hns' ho hq hcol

/-- The folders of a manifest that scans for no files. -/
def Manifest.plainFolders (m : Manifest) : List Folder :=
  m.folders.map fun e => ⟨e.path, e.kind, e.wantsNamespacePrefix, .ofList e.members⟩

theorem Manifest.toFolders_of_no_scan {m : Manifest} (h : ∀ e ∈ m.folders, e.scan = none) (fs : FileSystem)
    (root : Path) (notes : List Note) : m.toFolders fs root notes = .ok m.plainFolders notes := by
  rw [Manifest.toFolders, Manifest.plainFolders]
  generalize m.folders = entries at h
  induction entries with
  | nil => rfl
  | cons e rest ih =>
    obtain ⟨hscan, hrest⟩ := List.forall_mem_cons.1 h
    have hfolder : e.toFolder fs root notes =
        .ok ⟨e.path, e.kind, e.wantsNamespacePrefix, .ofList e.members⟩ notes := by
      rw [FolderEntry.toFolder, hscan]
      show EStateM.Result.ok (Folder.mk e.path e.kind e.wantsNamespacePrefix (.ofList (e.members ++ []))) notes = _
      rw [List.append_nil]
    rw [List.mapM_cons, bind_ok hfolder, bind_ok (ih hrest)]
    rfl

/-- The paths of a result, as they are written. -/
def Simplified.pathTexts (s : Simplified) : List String := s.folders.map (·.path.text)

/-- Two packages below a directory, with namespaces for them and for the directory where they are merged. -/
def namedMerge : Manifest where
  folders := [{ path := .ofText "java/com/app/io", kind := .source },
    { path := .ofText "java/com/app/ui", kind := .source }]
  namespaces := .ofList [(.ofText "java/com/app/io", .ofText "com/app/io"),
    (.ofText "java/com/app/ui", .ofText "com/app/ui"), (.ofText "java/com", .ofText "com")]

/-- The first of these packages. -/
def namedMergeIo : Folder := ⟨.ofText "java/com/app/io", .source, true, .ofList []⟩

theorem simplify_table_again_namedMerge :
    ∃ out, simplify namedMerge.resolver namedMerge.plainFolders = .ok out ∧ out.pathTexts = ["java/com"] ∧
      simplify namedMerge.resolver out.folders = .ok out := by
  have hcomputed : (collapsePass namedMerge.resolver namedMerge.plainFolders).toOption.any (fun out =>
      out.pathTexts == ["java/com"] && out.merged.all fun o => o.path.components == [.name "java", .name "com"] &&
        (namedMerge.resolver.resolve o.representative).map (·.components) == some [.name "com"]) = true := by
    decide +kernel
  obtain ⟨out, heq, htest⟩ := exists_simplify_of_any hcomputed
  obtain ⟨hpaths, hall⟩ := Bool.and_eq_true_iff.1 htest
  refine ⟨out, heq, eq_of_beq hpaths, (simplify_table_again namedMerge heq).2 (by decide) fun o ho _ _ _ => ?_⟩
  obtain ⟨hpath, hanswer⟩ := Bool.and_eq_true_iff.1 (List.all_eq_true.1 hall o ho)
  obtain ⟨own, hown, hsteps⟩ := Option.map_eq_some_iff.1 (eq_of_beq hanswer)
  have hio : (namedMerge.resolver.resolve namedMergeIo.representative).map (·.components) =
      some [.name "com", .name "app", .name "io"] := by decide
  obtain ⟨answer, hanswer, hsteps'⟩ := Option.map_eq_some_iff.1 hio
  refine ⟨namedMergeIo, List.mem_cons_self, Path.covers_iff.2 ?_, own, answer, hown, hanswer,
    [.name "app", .name "io"], ?_, ?_⟩
  · rw [eq_of_beq hpath]
    decide
  · rw [hsteps, hsteps']
    rfl
  · rw [eq_of_beq hpath]
    decide

/-! ## Passes that go on -/

/-- **What two passes leave** of the folders of a manifest. -/
def TwoPasses (m : Manifest) (first second : List String) : Prop :=
  ∀ (fs : FileSystem) (root : Path), ∃ folders out again, m.toFolders fs root [] = .ok folders [] ∧
    simplify m.resolver folders = .ok out ∧ simplify m.resolver out.folders = .ok again ∧
    out.pathTexts = first ∧ again.pathTexts = second

theorem twoPasses_of_any {m : Manifest} {first second : List String} (hscan : ∀ e ∈ m.folders, e.scan = none)
    (h : (collapsePass m.resolver m.plainFolders).toOption.any (fun out => out.pathTexts == first &&
      (collapsePass m.resolver out.folders).toOption.any fun again => again.pathTexts == second) = true) :
    TwoPasses m first second := by
  intro fs root
  obtain ⟨out, heq, htest⟩ := exists_simplify_of_any h
  obtain ⟨hfirst, hsecond⟩ := Bool.and_eq_true_iff.1 htest
  obtain ⟨again, heq', htest'⟩ := exists_simplify_of_any hsecond
  exact ⟨_, out, again, m.toFolders_of_no_scan hscan fs root [], heq, heq', eq_of_beq hfirst, eq_of_beq htest'⟩

/-- One folder without members, in a package that is named like the end of its path. -/
def lonePackage : Manifest where
  folders := [{ path := .ofText "java/com/example", kind := .source }]
  namespaces := .ofList [(.ofText "java/com/example", .ofText "com/example")]

/-- Four folders, two of them with a file in another one's place. -/
def strayFiles : Manifest where
  folders := [
    { path := .ofText "a/1", kind := .source, members := [.ofText "x/p/f"] },
    { path := .ofText "a/2", kind := .source, members := [.ofText "a/2/f"] },
    { path := .ofText "c", kind := .source, members := [.ofText "a/1/z"] },
    { path := .ofText "x/p/q", kind := .source, members := [.ofText "x/p/q/g"] }]
  namespaces := .ofList [(.ofText "x/p", .ofText "u"), (.ofText "a/2", .ofText "n/2"), (.ofText "a/1", .ofText "n/1"),
    (.ofText "x/p/q", .ofText "k/q")]

/-- **With a table, a second pass may merge further.** It does so without any members and with a table for the declared
    directory only, since the merged directory is then its own namespace; and it does so if all folders have members and
    some of these lie outside, since the file that told about a directory in the first pass is not asked about again. -/
theorem not_idempotent_of_table :
    ((∀ e ∈ lonePackage.folders, e.members = []) ∧
      lonePackage.namespaces.keys.map (·.text) = lonePackage.folders.map (·.path.text) ∧
      TwoPasses lonePackage ["java/com"] ["java"]) ∧
    (∀ e ∈ strayFiles.folders, e.members ≠ []) ∧ TwoPasses strayFiles ["a", "c", "x/p/q"] ["a", "c", "x/p"] := by
  refine ⟨⟨by decide, by decide +kernel, twoPasses_of_any (by decide) ?_⟩, by decide, twoPasses_of_any (by decide) ?_⟩
  · decide +kernel
  · decide +kernel

end RootFold
