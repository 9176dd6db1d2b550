import RootFold.Proofs.Namespace.Teaching

/-!
# `RootFold.Proofs.Pass.PackageTree` — a tree whose packages mirror its directories collapses

If below some directory every declared folder is in the namespace that its names give, all of these folders teach the
same: whichever comes first, what a cache knows about a directory there is the common namespace with the names from
the top to the directory behind it. Folders in other places teach nothing here. So the namespaces follow on every
step down, and the pass leaves one folder for the whole tree.

## Contents
- **Lookups.** `TaughtBy.lookup_of_teaches`, and `TaughtBy.aligned`.
- **Trees.** `PackageTree`; its folders all teach the same.
- **Passes.** `exists_simplify_of_packageTree`.
-/

namespace RootFold

variable {resolver : Resolver} {declared folders : List Folder} {f : Folder} {c : NamespaceCache} {q m x : Path}

/-! ## Lookups -/

/-- **What is known below a directory** about which all folders under it agree: the common namespace, with the steps
    down from the directory behind it. -/
theorem NamespaceCache.TaughtBy.lookup_of_teaches (h : c.TaughtBy resolver declared)
    (hall : ∀ f ∈ declared, q.Covers f.path → f.Teaches resolver q m) (hqx : q.Covers x) (hf : f ∈ declared)
    (hxf : x.Covers f.path) :
    ∃ (ns : Path) (tail : List Component), c.lookup x = some ns ∧ x.components = q.components ++ tail ∧
      ns.components = m.components ++ tail := by
  have hinward : ∀ g ∈ declared, x.Covers g.path → ∃ (ns : Path) (tail : List Component), g.Teaches resolver x ns ∧
      x.components = q.components ++ tail ∧ ns.components = m.components ++ tail := by
    intro g hg hxg
    have hteaches := hall g hg (hqx.trans hxg)
    exact hteaches.inward hqx (hxg.trans (h.housed g hg hteaches.wants))
  obtain ⟨ns, -, hteaches, -⟩ := hinward f hf hxf
  obtain ⟨known, hknown⟩ := h.complete f hf x ns hteaches
  -- whoever was first, it teaches the same namespace as all others
  obtain ⟨g, hg, hxg, hfirst⟩ := h.exists_teacher hknown hf hxf
  obtain ⟨ns', tail, hteaches', hx, hns'⟩ := hinward g hg hxg
  exact ⟨known, tail, hknown, hx, (hfirst.unique hteaches').trans hns'⟩

/-- **The namespaces follow the directories** below one about which all folders under it agree. -/
theorem NamespaceCache.TaughtBy.aligned (h : c.TaughtBy resolver declared) (hm : m.components ≠ [])
    (hall : ∀ f ∈ declared, q.Covers f.path → f.Teaches resolver q m) : Aligned c declared q := by
  intro f hf _ d e hqd hlies hef
  have hdf : d.Covers f.path := hlies.covers.trans hef
  obtain ⟨upper, tail, hupper, hd, hns⟩ := h.lookup_of_teaches hall hqd hf hdf
  obtain ⟨lower, tail', hlower, he, hns'⟩ := h.lookup_of_teaches hall (hqd.trans hlies.covers) hf hef
  obtain ⟨-, s, hs⟩ := Path.liesIn_iff.1 hlies
  have htail : tail' = tail ++ [s] := by
    rw [hs, hd, List.append_assoc] at he
    exact (List.append_cancel_left he).symm
  refine ⟨upper, lower, hupper, hlower, ?_, [s], ?_, ?_⟩
  · intro hnil
    rw [hns] at hnil
    exact hm (List.append_eq_nil_iff.1 hnil).1
  · rw [hns', hns, htail, List.append_assoc]
  · rw [hs, List.length_append]

/-! ## Trees -/

/-- **A tree whose packages mirror its directories:** the folders declared at or under the directory `q` are of one
    kind, want a prefix, lie some ordinary names below `q`, and are in the namespace `m` with the same names behind. -/
structure PackageTree (resolver : Resolver) (declared : List Folder) (q m : Path) : Prop where
  kind : ∀ f ∈ declared, ∀ g ∈ declared, q.Covers f.path → q.Covers g.path → f.kind = g.kind
  wants : ∀ f ∈ declared, q.Covers f.path → f.wantsNamespacePrefix = true
  nonempty : m.components ≠ []
  answers : ∀ f ∈ declared, q.Covers f.path → ∃ (words : List String) (answer : Path),
    f.path.components = q.components ++ words.map .name ∧ resolver.resolve f.representative = some answer ∧
    answer.components = m.components ++ words.map .name

/-- The folders of a tree all teach its namespace for its directory, if they have no members. -/
theorem PackageTree.teaches (h : PackageTree resolver declared q m) (hmembers : ∀ f ∈ declared, f.members.toList = [])
    (hq : q.components ≠ []) (hf : f ∈ declared) (hqf : q.Covers f.path) : f.Teaches resolver q m := by
  obtain ⟨words, answer, hpath, hres, hanswer⟩ := h.answers f hf hqf
  refine ⟨h.wants f hf hqf, hq, answer, words, .name "notfound", hres, ?_, hanswer⟩
  rw [Folder.components_representative (hmembers f hf), hpath]

theorem PackageTree.collapsible (h : PackageTree resolver declared q m)
    (hmembers : ∀ f ∈ declared, f.members.toList = []) (hc : c.TaughtBy resolver declared) :
    Collapsible c declared q where
  homogeneous f hf g hg hqf hqg := ⟨h.kind f hf g hg hqf hqg, by rw [h.wants f hf hqf, h.wants g hg hqg]⟩
  aligned := by
    by_cases hq : q.components = []
    · -- the path without steps covers nothing that has a step below it
      intro f _ _ d e hqd hlies
      exact absurd ((Path.covers_iff.1 hqd).2 hq) (Path.liesIn_iff.1 hlies).1
    · exact hc.aligned h.nonempty fun f hf hqf => h.teaches hmembers hq hf hqf

/-! ## Passes -/

/-- **Completeness.** On folders without members that pass the check, a pass succeeds, and every tree whose packages
    mirror its directories ends up in one folder: a folder of the result is at the tree's directory or above it, and it
    is the only one that covers any of the tree's folders. -/
theorem exists_simplify_of_packageTree (hvalid : validate folders = .ok ())
    (hmembers : ∀ f ∈ declaredFolders folders, f.members.toList = [])
    (hq : Occupied (declaredFolders folders) q) (h : PackageTree resolver (declaredFolders folders) q m) :
    ∃ out, simplify resolver folders = .ok out ∧ ∃ o ∈ out.merged, o.path.Covers q ∧
      ∀ f ∈ declaredFolders folders, q.Covers f.path →
        o.path.Covers f.path ∧ ∀ o' ∈ out.merged, o'.path.Covers f.path → o' = o := by
  have hi := validate_eq_ok_iff.1 hvalid
  obtain ⟨acc, heq, -⟩ := exists_simplify resolver hi
  have hcond := condensed_of_simplify heq
  have htaught := NamespaceCache.taughtBy_namespacesOf resolver hi fun f hf _ =>
    Folder.housed_of_no_members (hmembers f hf)
  obtain ⟨o, ho, hoq⟩ := hcond.exists_covers hq (h.collapsible hmembers htaught)
  refine ⟨_, heq, o, ho, hoq, fun f hf hqf => ⟨hoq.trans hqf, fun o' ho' hof => ?_⟩⟩
  exact (hcond.existsUnique_covers hi hf).unique ⟨ho', hof⟩ ⟨ho, hoq.trans hqf⟩

/-- Two packages of a tree, and a folder elsewhere in a namespace that does not fit. -/
def twoPackages : List Folder :=
  [.ofKind .source (.ofText "java/com/app"), .ofKind .source (.ofText "java/com/lib/io"),
    .ofKind .source (.ofText "java/org")]

/-- The namespaces of these folders. -/
def twoPackagesTable : Resolver :=
  .mapped (.ofList [(.ofText "java/com/app", .ofText "com/app"), (.ofText "java/com/lib/io", .ofText "com/lib/io"),
    (.ofText "java/org", .ofText "net")])

theorem exists_simplify_of_packageTree_twoPackages :
    ∃ out, simplify twoPackagesTable twoPackages = .ok out ∧
      ∃ o ∈ out.merged, o.path.Covers (.ofText "java/com") := by
  have hi : Independent (declaredFolders twoPackages) := independent_of_not_prefix (by decide)
  have hsame : ∀ f ∈ declaredFolders twoPackages, f.kind = .source ∧ f.wantsNamespacePrefix = true := by decide
  have hanswer : ∀ f ∈ declaredFolders twoPackages, (Path.ofText "java/com").components <+: f.path.components →
      (twoPackagesTable.resolve f.representative).map (·.components) =
        some (.name "com" :: f.path.components.drop 2) := by decide
  have hwords : ∀ f ∈ declaredFolders twoPackages, ∃ words : List String,
      f.path.components.drop 2 = words.map .name :=
    List.forall_mem_cons.2 ⟨⟨["app"], by decide⟩, List.forall_mem_cons.2 ⟨⟨["lib", "io"], by decide⟩,
      List.forall_mem_singleton.2 ⟨[], by decide⟩⟩⟩
  have htree : PackageTree twoPackagesTable (declaredFolders twoPackages) (.ofText "java/com") (.ofText "com") := by
    refine ⟨fun f hf g hg _ _ => (hsame f hf).1.trans (hsame g hg).1.symm, fun f hf _ => (hsame f hf).2, by decide,
      fun f hf hqf => ?_⟩
    obtain ⟨hpre, -⟩ := Path.covers_iff.1 hqf
    obtain ⟨words, hwords⟩ := hwords f hf
    obtain ⟨answer, hres, hcomponents⟩ := Option.map_eq_some_iff.1 (hanswer f hf hpre)
    refine ⟨words, answer, ?_, hres, ?_⟩
    · rw [← hwords]
      exact (List.prefix_iff_eq_append.1 hpre).symm
    · rw [hcomponents, hwords]
      rfl
  have hocc : Occupied (declaredFolders twoPackages) (.ofText "java/com") :=
    ⟨.ofKind .source (.ofText "java/com/app"), List.mem_cons_self, Path.covers_iff.2 (by decide)⟩
  obtain ⟨out, heq, o, ho, hcov, -⟩ :=
    exists_simplify_of_packageTree (validate_eq_ok_iff.2 hi) (by decide) hocc htree
  exact ⟨out, heq, o, ho, hcov⟩

end RootFold
