import RootFold.Proofs.Namespace.Teaching

/-!
# `RootFold.Proofs.Pass.Unplaced` — what cannot be placed is not merged

Nothing is absorbed without a namespace to compare. As long as files lie inside their folders, only a folder itself has
anything to say about its own directory; so if the resolver has no answer for its file, nothing is known there. Then no
step leads from the directory above down to the folder, and no directory above it collapses, whatever its neighbours
are and whether they want a prefix or not.
-/

namespace RootFold

variable {resolver : Resolver} {ns : NamespaceCache} {declared merged folders : List Folder} {f : Folder} {m : Path}

/-- **Above a folder whose directory has no namespace** nothing collapses. -/
theorem not_collapsible_above (hf : f ∈ declared) (hwants : f.wantsNamespacePrefix = true)
    (hnone : ns.lookup f.path = none) (hm : f.path.LiesIn m) : ¬ Collapsible ns declared m := by
  intro hcol
  obtain ⟨_, l, -, hl, -⟩ := hcol.aligned f hf hwants m f.path (.refl m) hm (.refl _)
  exact absurd (hnone.symm.trans hl) nofun

/-- **Such a folder is left as it was.** -/
theorem Condensed.mem_of_lookup_eq_none (h : Condensed ns declared merged) (hi : Independent declared)
    (hf : f ∈ declared) (hwants : f.wantsNamespacePrefix = true) (hnone : ns.lookup f.path = none) : f ∈ merged := by
  have htop : Topmost ns declared f.path :=
    ⟨⟨f, hf, .refl _⟩, hi.collapsible hf, fun m hm => not_collapsible_above hf hwants hnone hm⟩
  obtain ⟨o, ho, hof⟩ := h.complete f.path htop
  obtain rfl := h.itself o ho f hf (BEq.symm hof)
  exact ho

/-- **What cannot be placed is not merged.** If the members of folders that want a prefix lie inside them, every such
    folder for whose file the resolver has no namespace is in the result as it was given. No other folder of the result
    covers it, and none is at a directory above it. -/
theorem simplify_keeps_unplaced {out : Simplified} (h : simplify resolver folders = .ok out)
    (hinside : ∀ f ∈ declaredFolders folders, f.wantsNamespacePrefix = true →
      ∀ x ∈ f.members.toList, ∃ a ∈ x.ancestors, (f.path == a) = true) :
    ∀ f ∈ declaredFolders folders, f.wantsNamespacePrefix = true → resolver.resolve f.representative = none →
      f ∈ out.merged ∧ (∀ o ∈ out.merged, o.path.Covers f.path → o = f) ∧
      ∀ o ∈ out.merged, ∀ a ∈ f.path.ancestors, ¬ (o.path == a) = true := by
  intro f hf hwants hanswer
  have hi := independent_of_simplify h
  have hcond := condensed_of_simplify h
  have hns := NamespaceCache.taughtBy_namespacesOf resolver hi fun g hg hgw => Folder.housed_of_inside (hinside g hg hgw)
  have hmem : f ∈ out.merged := hcond.mem_of_lookup_eq_none hi hf hwants (hns.lookup_eq_none hf hanswer)
  have halone : ∀ o ∈ out.merged, o.path.Covers f.path → o = f := fun o ho hof => hcond.independent.eq_of_covers ho hmem hof
  refine ⟨hmem, halone, fun o ho a ha hoa => ?_⟩
  obtain rfl := halone o ho (.inr ⟨a, ha, hoa⟩)
  have hlt := Path.length_of_mem_ancestors ha
  rw [Path.beq_iff.1 hoa] at hlt
  exact Nat.lt_irrefl _ hlt

/-- Every directory is its own namespace but one, which has none. -/
def exceptLegacy : Resolver where
  resolve file :=
    if Resolver.containingDirectory file == .ofText "app/legacy" then none else some (Resolver.containingDirectory file)

/-- A folder in that directory, among others that could merge. -/
def besideLegacy : List Folder :=
  [.ofKind .source (.ofText "app/core"), .ofKind .source (.ofText "app/legacy"), .ofKind .source (.ofText "app/ui")]

theorem simplify_keeps_unplaced_besideLegacy :
    ∃ out, simplify exceptLegacy besideLegacy = .ok out ∧ .ofKind .source (.ofText "app/legacy") ∈ out.merged ∧
      ∀ o ∈ out.merged, ¬ (o.path == .ofText "app") = true := by
  have hi : Independent (declaredFolders besideLegacy) := independent_of_not_prefix (by decide)
  obtain ⟨acc, heq, -⟩ := exists_simplify exceptLegacy hi
  have hmem : Folder.ofKind .source (.ofText "app/legacy") ∈ declaredFolders besideLegacy :=
    List.mem_cons_of_mem _ List.mem_cons_self
  obtain ⟨hkept, -, habove⟩ := simplify_keeps_unplaced heq (by decide) _ hmem rfl (by decide)
  refine ⟨_, heq, hkept, fun o ho => ?_⟩
  obtain ⟨m, hm⟩ := Path.exists_parentDir? (p := .ofText "app/legacy") (by decide)
  have happ : (m == Path.ofText "app") = true := by
    rw [Path.beq_iff, Path.components_of_parentDir? hm]
    decide
  have hancestor : m ∈ (Path.ofText "app/legacy").ancestors := by
    rw [Path.ancestors_of_parentDir?_eq_some hm]
    exact List.mem_cons_self
  intro hoapp
  exact habove o ho m hancestor (BEq.trans hoapp (BEq.symm happ))

end RootFold
