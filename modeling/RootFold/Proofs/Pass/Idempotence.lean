import RootFold.Proofs.Namespace.Mirror

/-!
# `RootFold.Proofs.Pass.Idempotence` — a second pass changes nothing

With every directory as its own namespace, the second pass looks its folders up through other files: the first
member of a union, or a placeholder in a merged directory. Still it knows no directory that the first pass did not
know, and so nothing collapses that did not collapse before. Each folder is then topmost by itself, and the second
result is the first, in the same order.

## Contents
- **Namespaces.** `Condensed.places`: what the second pass knows the first pass knew.
- **Directories.** `Condensed.collapsible_of_follows` and `Condensed.collapsible`: what collapses in the second pass
  collapsed in the first.
- **Results.** `simplify_directory_idempotent`.
-/

namespace RootFold

variable {ns ns' : NamespaceCache} {declared merged folders : List Folder} {o d : Folder} {q m : Path}

/-! ## Namespaces -/

/-- The first member of a union is the first member of one of its parts, spelled as it is there. -/
theorem Represents.exists_first {first : Path} (h : Represents declared o)
    (ho : o.members.toList.head? = some first) :
    ∃ d ∈ declared, o.path.Covers d.path ∧ d.members.toList.head? = some first := by
  obtain ⟨d, hd, hod, hmem⟩ := h.spelled first (List.mem_of_head? ho)
  have hcontains : d.members.contains first = true := PathSet.contains_iff_toList.2 ⟨first, hmem, BEq.rfl⟩
  obtain ⟨first', hd'⟩ := PathSet.exists_head? hcontains
  have hcontains' : o.members.contains first' = true := (h.members first').2 ⟨d, hd, hod, PathSet.contains_of_head? hd'⟩
  -- each of both is the first of a set that holds the other
  rcases Path.lt_or_beq_or_gt first' first with hlt | heq | hgt
  · exact absurd hlt (PathSet.not_lt_of_head? ho hcontains')
  · obtain rfl := PathSet.eq_of_mem_toList (List.mem_of_head? hd') hmem heq
    exact ⟨d, hd, hod, hd'⟩
  · exact absurd hgt (PathSet.not_lt_of_head? hd' hcontains)

/-- **What a folder that is left places,** a declared one placed. -/
theorem Condensed.places (h : Condensed ns declared merged) (hns : ns.MirrorOf declared) (ho : o ∈ merged)
    (hq : o.Places q) : ∃ d ∈ declared, d.Places q := by
  obtain ⟨words, last, hfile⟩ := hq.names
  cases hhead : o.members.toList.head? with
  | some first =>
    -- its file is the file of one of the folders that it stands for
    obtain ⟨d, hd, hod, hd'⟩ := (h.represents o ho).exists_first hhead
    have hwants := ((h.represents o ho).agrees d hd hod).2
    have hsame : d.representative = o.representative := by
      rw [Folder.representative, Folder.representative, hhead, hd']
      rfl
    exact ⟨d, hd, hwants.trans hq.wants, hq.nonempty, words, last, hsame ▸ hfile⟩
  | none =>
    rw [Folder.components_representative (List.head?_eq_none_iff.1 hhead)] at hfile
    have hpath : o.path.components = q.components ++ words.map .name := List.append_inj_left' hfile rfl
    obtain ⟨d, hd, hod⟩ := (h.topmost o ho).occupied
    rcases Path.covers_iff_beq_or_liesIn.1 hod with he | ⟨c, hc, hcd⟩
    · obtain rfl := h.itself o ho d hd (BEq.symm he)
      exact ⟨o, hd, hq⟩
    · -- a merged folder's own directory was known, or nothing could have been merged there
      have hwants := ((h.represents o ho).agrees d hd hod).2
      have hfollows := (h.topmost o ho).collapsible.aligned d hd (hwants.trans hq.wants) o.path c (.refl _) hc hcd
      obtain ⟨⟨f, hf, hplaces⟩, -⟩ := (hns.follows_iff hc).1 hfollows
      obtain ⟨words', last', hfile'⟩ := hplaces.names
      refine ⟨f, hf, hplaces.wants, hq.nonempty, words ++ words', last', ?_⟩
      rw [hfile', hpath, List.map_append, List.append_assoc q.components]

/-! ## Directories -/

/-- A directory above a folder that is left covers every folder that is left on the way to a declared one. -/
theorem Condensed.covers_of_liesIn (h : Condensed ns declared merged) {f : Folder} (hf : f ∈ merged)
    (ho : o ∈ merged) (hm : f.path.LiesIn m) (hmd : m.Covers d.path) (hod : o.path.Covers d.path) : m.Covers o.path := by
  rcases hmd.total hod with hc | hc
  · exact hc
  · obtain rfl := h.independent.eq_of_covers ho hf (hc.trans hm.covers)
    exact absurd hc hm.not_covers

/-- **What collapses above a folder that is left** would have collapsed before, if the namespaces that follow one
    another above the folders that are left did so before. -/
theorem Condensed.collapsible_of_follows (h : Condensed ns declared merged) (hi : Independent declared) {f : Folder}
    (hf : f ∈ merged) (hm : f.path.LiesIn m) (hcol : Collapsible ns' merged m)
    (hsteps : ∀ o ∈ merged, o.wantsNamespacePrefix = true → ∀ x c : Path, m.Covers x → c.LiesIn x →
      c.Covers o.path → ns'.Follows x c → ns.Follows x c) : Collapsible ns declared m where
  homogeneous a ha b hb hma hmb := by
    obtain ⟨o, ⟨ho, hoa⟩, -⟩ := h.existsUnique_covers hi ha
    obtain ⟨o', ⟨ho', hob⟩, -⟩ := h.existsUnique_covers hi hb
    obtain ⟨hk, hw⟩ := (h.represents o ho).agrees a ha hoa
    obtain ⟨hk', hw'⟩ := (h.represents o' ho').agrees b hb hob
    rw [hk, hw, hk', hw']
    exact hcol.homogeneous o ho o' ho' (h.covers_of_liesIn hf ho hm hma hoa) (h.covers_of_liesIn hf ho' hm hmb hob)
  aligned a ha hwants x c hmx hcx hca := by
    obtain ⟨o, ⟨ho, hoa⟩, -⟩ := h.existsUnique_covers hi ha
    have hwants' : o.wantsNamespacePrefix = true := by
      rw [← ((h.represents o ho).agrees a ha hoa).2, hwants]
    -- the step leads down to the folder that is left, or it lies below it
    by_cases hco : c.Covers o.path
    · exact hsteps o ho hwants' x c hmx hcx hco (hcol.aligned o ho hwants' x c hmx hcx hco)
    · have hoc : o.path.Covers c := (hca.total hoa).resolve_left hco
      have hox : o.path.Covers x := hoc.of_liesIn_of_not_beq (fun he => hco (.of_beq (BEq.symm he))) hcx
      exact (h.topmost o ho).collapsible.aligned a ha hwants x c hox hcx hca

/-- **With every directory as its own namespace** nothing collapses that did not collapse before. -/
theorem Condensed.collapsible (h : Condensed ns declared merged) (hi : Independent declared)
    (hns : ns.MirrorOf declared) (hns' : ns'.MirrorOf merged) {f : Folder} (hf : f ∈ merged) (hm : f.path.LiesIn m)
    (hcol : Collapsible ns' merged m) : Collapsible ns declared m := by
  refine h.collapsible_of_follows hi hf hm hcol fun o _ _ x c _ hcx _ hfollows => ?_
  obtain ⟨⟨g, hg, hgx⟩, g', hg', hgc⟩ := (hns'.follows_iff hcx).1 hfollows
  exact (hns.follows_iff hcx).2 ⟨h.places hns hg hgx, h.places hns hg' hgc⟩

/-- **Each folder that is left is topmost** by itself. -/
theorem Condensed.topmost_again (h : Condensed ns declared merged) (hi : Independent declared)
    (hns : ns.MirrorOf declared) (hns' : ns'.MirrorOf merged) (ho : o ∈ merged) : Topmost ns' merged o.path where
  occupied := ⟨o, ho, .refl _⟩
  collapsible := h.independent.collapsible ho
  top m hm hcol := (h.topmost o ho).top m hm (h.collapsible hi hns hns' ho hm hcol)

/-! ## Results -/

/-- Folders in the place of others that are all topmost are these others. -/
theorem Condensed.perm_of_topmost (h : Condensed ns declared merged) (hi : Independent declared)
    (htop : ∀ d ∈ declared, Topmost ns declared d.path) : merged.Perm declared := by
  have hnodup : ∀ {l : List Folder}, Independent l → l.Nodup := by
    intro l hl
    refine hl.imp fun {a b} hab he => ?_
    subst he
    exact hab.1 (.refl _)
  refine (List.perm_ext_iff_of_nodup (hnodup h.independent) (hnodup hi)).2 fun f => ⟨fun hf => ?_, fun hf => ?_⟩
  · obtain ⟨d, hd, hfd⟩ := (h.topmost f hf).occupied
    have hpath := (h.topmost f hf).beq_of_covers (htop d hd) hfd
    exact h.itself f hf d hd (BEq.symm hpath) ▸ hd
  · obtain ⟨g, hg, hgf⟩ := h.complete f.path (htop f hf)
    exact h.itself g hg f hf (BEq.symm hgf) ▸ hg

/-- **Idempotence.** With every directory as its own namespace, a pass over the result of a pass succeeds with the
    same folders in the same order. -/
theorem simplify_directory_idempotent {out : Simplified} (h : simplify .directory folders = .ok out) :
    simplify .directory out.folders = .ok out := by
  have hi := independent_of_simplify h
  have hcond := condensed_of_simplify h
  have hi' : Independent (declaredFolders out.folders) := hcond.independent
  have hns := NamespaceCache.mirrorOf_namespacesOf folders
  have hns' := NamespaceCache.mirrorOf_namespacesOf out.folders
  obtain ⟨acc, rfl, hacc⟩ := simplify_eq_ok h
  obtain ⟨acc', heq, hacc'⟩ := exists_simplify .directory hi'
  obtain ⟨hexcluded, hmerged⟩ := hacc.assemble
  -- both passes hold the same folders, in the same order
  have hperm : acc'.values.Perm acc.values := by
    have hleft := hacc'.condensed.perm_of_topmost hi' fun o ho => hcond.topmost_again hi hns hns' ho
    rw [← hmerged]
    exact hleft
  have hvalues : acc'.values = acc.values :=
    hperm.eq_of_pairwise (fun a b _ _ hab hba => absurd (Path.lt_trans hab hba) (Path.lt_irrefl _))
      hacc'.faithful.values_sorted hacc.faithful.values_sorted
  have hexcluded' : (sortByPath (Simplified.assemble ((sortByPath folders).filter (·.isExcluded)) acc).folders).filter
      (·.isExcluded) = (sortByPath folders).filter (·.isExcluded) := by
    rw [Simplified.sortByPath_folders]
    exact hexcluded
  rw [heq, hexcluded', Simplified.assemble, hvalues, ← Simplified.assemble]

/-- Folders with a member outside, one of them excluded. -/
def strayMembers : List Folder :=
  [{ Folder.ofKind .source (.ofText "app/a") with members := PathSet.empty.insert (.ofText "lib/m") },
    .ofKind .source (.ofText "app/b"), .ofKind .exclude (.ofText "app")]

theorem simplify_directory_idempotent_strayMembers :
    ∃ out, simplify .directory strayMembers = .ok out ∧ simplify .directory out.folders = .ok out := by
  have hi : Independent (declaredFolders strayMembers) := independent_of_not_prefix (by decide)
  obtain ⟨acc, heq, -⟩ := exists_simplify .directory hi
  exact ⟨_, heq, simplify_directory_idempotent heq⟩

end RootFold
