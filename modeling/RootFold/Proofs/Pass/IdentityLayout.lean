import RootFold.Proofs.Namespace.Mirror

/-!
# `RootFold.Proofs.Pass.IdentityLayout` — the largest homogeneous trees

When every directory is its own namespace and no folder has members, namespaces never stand in the way: each folder
places its own directory and all above it. A pass then leaves exactly the topmost directories whose declared folders
agree on kind and flag.

## Contents
- **Plain paths.** `Path.IsPlain`, and what lies behind a directory that covers one.
- **Alignment.** `aligned_of_plain`.
- **The closed form.** `exists_simplify_iff_homogeneous`.
-/

namespace RootFold

variable {folders : List Folder} {f : Folder} {p q : Path}

/-! ## Plain paths -/

/-- **Ordinary names** behind an optional `/` or `.` at the front. -/
def Path.IsPlain (p : Path) : Prop :=
  ∃ (lead : Lead) (words : List String), p.components = lead.components ++ words.map .name

/-- Behind a directory that covers a plain path there are only names. -/
theorem Path.IsPlain.exists_names (h : p.IsPlain) (hq : q.components ≠ []) (hcov : q.Covers p) :
    ∃ words : List String, p.components = q.components ++ words.map .name := by
  obtain ⟨lead, words, hp⟩ := h
  obtain ⟨tail, htail⟩ := (covers_iff.1 hcov).1
  have hdrop : tail = p.components.drop q.components.length := by rw [← htail, List.drop_left]
  have hlen : lead.components.length ≤ q.components.length := by
    have hpos := List.length_pos_iff.2 hq
    rcases lead.components_eq with hl | hl | hl <;> rw [hl]
    · exact Nat.zero_le _
    · exact hpos
    · exact hpos
  refine ⟨words.drop (q.components.length - lead.components.length), ?_⟩
  rw [← htail, hdrop, hp, List.drop_append, List.drop_eq_nil_of_le hlen, List.nil_append, List.map_drop]

/-! ## Alignment -/

/-- A folder without members places every directory above its plain path. -/
theorem Folder.places_of_plain (hwants : f.wantsNamespacePrefix = true) (hmembers : f.members.toList = [])
    (hplain : f.path.IsPlain) (hq : q.components ≠ []) (hcov : q.Covers f.path) : f.Places q := by
  obtain ⟨words, hwords⟩ := hplain.exists_names hq hcov
  refine ⟨hwants, hq, words, .name "notfound", ?_⟩
  rw [components_representative hmembers, hwords]

/-- **Namespaces follow the directories everywhere.** -/
theorem aligned_of_plain (hmembers : ∀ f ∈ declaredFolders folders, f.members.toList = [])
    (hplain : ∀ f ∈ declaredFolders folders, f.path.IsPlain) (q : Path) :
    Aligned (namespacesOf .directory folders) (declaredFolders folders) q := by
  intro f hf hwants m c _ hlies hcov
  have hplaces : ∀ a : Path, a.components ≠ [] → a.Covers f.path → f.Places a := fun a ha hac =>
    Folder.places_of_plain hwants (hmembers f hf) (hplain f hf) ha hac
  obtain ⟨hm, last, hc⟩ := Path.liesIn_iff.1 hlies
  have hc' : c.components ≠ [] := by simp [hc]
  refine ((NamespaceCache.mirrorOf_namespacesOf folders).follows_iff hlies).2 ?_
  exact ⟨⟨f, hf, hplaces m hm (hlies.covers.trans hcov)⟩, f, hf, hplaces c hc' hcov⟩

/-! ## The closed form -/

theorem occupied_iff_contains :
    Occupied (declaredFolders folders) q ↔ (AncestryGraph.ofList (declaredPaths folders)).contains q = true := by
  rw [AncestryGraph.contains_ofList, declaredPaths]
  constructor
  · rintro ⟨f, hf, hqf⟩
    exact ⟨f.path, List.mem_map_of_mem hf, hqf⟩
  · rintro ⟨p, hp, hqp⟩
    obtain ⟨f, hf, rfl⟩ := List.mem_map.1 hp
    exact ⟨f, hf, hqp⟩

/-- **The closed form of a pass.** For folders without members at plain paths that pass the check, with every
    directory as its own namespace, the pass succeeds, and it leaves a folder at a directory exactly if the directory
    is a declared one or above one, the folders declared at or under it agree, and those declared at or under the
    directory above it, if there is one, do not. -/
theorem exists_simplify_iff_homogeneous (hvalid : validate folders = .ok ())
    (hmembers : ∀ f ∈ declaredFolders folders, f.members.toList = [])
    (hplain : ∀ f ∈ declaredFolders folders, f.path.IsPlain) :
    ∃ out, simplify .directory folders = .ok out ∧
      ∀ q, (∃ o ∈ out.merged, (o.path == q) = true) ↔
        (AncestryGraph.ofList (declaredPaths folders)).contains q = true ∧
        Homogeneous (declaredFolders folders) q ∧
        (q.parentDir? = none ∨ ∃ r, q.parentDir? = some r ∧ ¬ Homogeneous (declaredFolders folders) r) := by
  obtain ⟨acc, heq, -⟩ := exists_simplify .directory (validate_eq_ok_iff.1 hvalid)
  refine ⟨_, heq, fun q => ?_⟩
  have hcond := condensed_of_simplify heq
  have haligned := aligned_of_plain hmembers hplain
  rw [← occupied_iff_contains]
  constructor
  · rintro ⟨o, ho, hoq⟩
    have htop := hcond.topmost o ho
    refine ⟨htop.occupied.of_covers (.of_beq (BEq.symm hoq)),
      ((Collapsible.congr hoq).1 htop.collapsible).homogeneous, ?_⟩
    cases hpar : q.parentDir? with
    | none => exact .inl rfl
    | some r =>
      have hlies : o.path.LiesIn r := (Path.LiesIn.congr hoq BEq.rfl).2 (.of_parentDir? hpar)
      exact .inr ⟨r, rfl, fun hr => htop.top r hlies ⟨hr, haligned r⟩⟩
  · rintro ⟨hocc, hhom, htop⟩
    refine hcond.complete q ⟨hocc, ⟨hhom, haligned q⟩, fun m hm hcol => ?_⟩
    obtain ⟨r, hr, hrm⟩ := hm
    rcases htop with hnone | ⟨r', hr', hnot⟩
    · exact absurd (hnone.symm.trans hr) (by simp)
    · obtain rfl : r = r' := Option.some.inj (hr.symm.trans hr')
      exact hnot ((Collapsible.congr hrm).2 hcol).homogeneous

/-- Two source folders in one directory. -/
def twoSources : List Folder := [.ofKind .source (.ofText "app/a"), .ofKind .source (.ofText "app/b")]

theorem exists_simplify_iff_homogeneous_twoSources :
    ∃ out, simplify .directory twoSources = .ok out ∧ ∃ o ∈ out.merged, (o.path == .ofText "app") = true := by
  have hi : Independent (declaredFolders twoSources) := independent_of_not_prefix (by decide)
  have hplain : ∀ f ∈ declaredFolders twoSources, f.path.IsPlain :=
    List.forall_mem_cons.2 ⟨⟨.plain, ["app", "a"], by decide⟩,
      List.forall_mem_singleton.2 ⟨.plain, ["app", "b"], by decide⟩⟩
  have hsame : ∀ f ∈ declaredFolders twoSources, f.kind = .source ∧ f.wantsNamespacePrefix = true := by decide
  have hhom : Homogeneous (declaredFolders twoSources) (.ofText "app") := by
    intro f hf g hg _ _
    rw [(hsame f hf).1, (hsame f hf).2, (hsame g hg).1, (hsame g hg).2]
    exact ⟨rfl, rfl⟩
  have hnode : (AncestryGraph.ofList (declaredPaths twoSources)).contains (.ofText "app") = true :=
    AncestryGraph.contains_ofList.2 ⟨.ofText "app/a", List.mem_cons_self, Path.covers_iff.2 (by decide)⟩
  obtain ⟨out, heq, hiff⟩ := exists_simplify_iff_homogeneous (validate_eq_ok_iff.2 hi) (by decide) hplain
  exact ⟨out, heq, (hiff _).2 ⟨hnode, hhom, .inl (Path.parentDir?_eq_none_iff.2 (by decide))⟩⟩

end RootFold
