import RootFold.Proofs.Pass.IdentityLayout

/-!
# `RootFold.Proofs.Pass.Absorption` — what was absorbed level by level could have been absorbed at once

A walk tests one level at a time, each time with a template that stands for what was merged so far. The test at one
level says that namespaces follow one step; these steps compose, also through directories whose namespaces were
learned from other folders. So the test between a folder that is left and any declared folder below it, any number of
levels apart, has the same favourable answer.
-/

namespace RootFold

variable {ns : NamespaceCache} {declared merged folders : List Folder} {resolver : Resolver} {o f : Folder}

/-- A folder that is left may absorb each of those that it stands for. -/
theorem Condensed.absorbs (h : Condensed ns declared merged) (ho : o ∈ merged) (hf : f ∈ declared)
    (hof : o.path.Covers f.path) (hne : ¬ (o.path == f.path) = true) : Absorbs ns o f := by
  obtain ⟨hkind, hflag⟩ := (h.represents o ho).agrees f hf hof
  refine ⟨hkind.symm, hflag.symm, fun hwants => ?_⟩
  exact (h.topmost o ho).collapsible.aligned.follows hf (hflag.trans hwants) (.refl _) hof hne (.refl _)

/-- **Absorption is sound over any number of levels.** With the namespaces that the pass knew once all folders were
    registered, each folder of the result may absorb every declared folder below it directly. -/
theorem canMerge_of_absorbed {out : Simplified} (h : simplify resolver folders = .ok out) :
    ∃ p notes, prepare resolver folders [] = .ok p notes ∧
      ∀ o ∈ out.merged, ∀ f ∈ declaredFolders folders, o.path.Covers f.path → ¬ (o.path == f.path) = true →
        canMerge o f p.namespaces = .ok true := by
  have hcond := condensed_of_simplify h
  obtain ⟨p, notes, hprep, -, hns, -⟩ := exists_prepare resolver (independent_of_simplify h) []
  refine ⟨p, notes, hprep, fun o ho f hf hof hne => ?_⟩
  have hpre := (Path.covers_iff.1 hof).1
  have hlt : o.path.components.length < f.path.components.length := by
    apply Nat.lt_of_le_of_ne hof.length_le
    intro hlen
    exact hne (Path.beq_iff.2 (hpre.eq_of_length hlen))
  rw [hns, ← namespacesOf, canMerge_eq_ok_true_iff _ hpre hlt]
  exact hcond.absorbs ho hf hof hne

/-- Two source folders, one of them further down. -/
def unevenSources : List Folder := [.ofKind .source (.ofText "java/com/app"), .ofKind .source (.ofText "java/org")]

theorem canMerge_of_absorbed_unevenSources :
    ∃ out p notes, simplify .directory unevenSources = .ok out ∧ prepare .directory unevenSources [] = .ok p notes ∧
      ∃ o ∈ out.merged, o.path.Covers (.ofText "java") ∧
        canMerge o (.ofKind .source (.ofText "java/com/app")) p.namespaces = .ok true := by
  have hi : Independent (declaredFolders unevenSources) := independent_of_not_prefix (by decide)
  obtain ⟨acc, heq, -⟩ := exists_simplify .directory hi
  have hplain : ∀ f ∈ declaredFolders unevenSources, f.path.IsPlain :=
    List.forall_mem_cons.2 ⟨⟨.plain, ["java", "com", "app"], by decide⟩,
      List.forall_mem_singleton.2 ⟨.plain, ["java", "org"], by decide⟩⟩
  have hsame : ∀ f ∈ declaredFolders unevenSources, f.kind = .source ∧ f.wantsNamespacePrefix = true := by decide
  have hcol : Collapsible (namespacesOf .directory unevenSources) (declaredFolders unevenSources) (.ofText "java") := by
    refine ⟨fun f hf g hg _ _ => ?_, aligned_of_plain (by decide) hplain _⟩
    rw [(hsame f hf).1, (hsame f hf).2, (hsame g hg).1, (hsame g hg).2]
    exact ⟨rfl, rfl⟩
  have hmem : Folder.ofKind .source (.ofText "java/com/app") ∈ declaredFolders unevenSources := List.mem_cons_self
  have hbelow : (Path.ofText "java").Covers (.ofText "java/com/app") := Path.covers_iff.2 (by decide)
  obtain ⟨o, ho, hjava⟩ := (condensed_of_simplify heq).exists_covers ⟨_, hmem, hbelow⟩ hcol
  have hne : ¬ (o.path == .ofText "java/com/app") = true := by
    intro he
    have hback : (Path.ofText "java/com/app").Covers (.ofText "java") := (Path.Covers.of_beq (BEq.symm he)).trans hjava
    exact absurd hback.length_le (by decide)
  obtain ⟨p, notes, hprep, hmerge⟩ := canMerge_of_absorbed heq
  exact ⟨_, p, notes, heq, hprep, o, ho, hjava, hmerge o ho _ hmem (hjava.trans hbelow) hne⟩

end RootFold
