import RootFold.Folder.Basic
import RootFold.Proofs.Path.Map
import RootFold.Proofs.Path.Steps

/-!
# `RootFold.Proofs.Folder.Merge` — merging is a join where it is defined

Two folders merge when they agree on kind and flag and their paths lie on one line, one beginning the other. The merged
folder is at the upper path and has the files of both, so it is determined, up to spelling, by the folders that went
into it: their order does not matter, nor does a folder that is merged in twice, and of three folders it does not
matter which two are merged first, as long as both ways are open. One way can be closed: two folders side by side do not
merge with each other, but both may merge with one above them.

## Contents
- **Equality.** `beq_iff`, `isCompatibleWith_iff`.
- **Files.** `PathSet.GatheredFrom`, the files of some folders, with `GatheredFrom.union` and `GatheredFrom.beq`.
- **Two folders.** `merge_cases`, all that merging can do.
- **Any folders.** `MergedFrom` says what a folder is that others were merged into; `MergedFrom.merge` goes on from there,
  and `MergedFrom.beq` says that there is one such folder.
- **Laws.** `MergesAlike`, `merge_is_partial_join`.
-/

namespace RootFold

namespace Folder

variable {a b : Folder}

/-! ## Equality -/

/-- **Folders are equal** when they agree, paths up to spelling. -/
theorem beq_iff : (a == b) = true ↔
    (a.path == b.path) = true ∧ a.kind = b.kind ∧ a.wantsNamespacePrefix = b.wantsNamespacePrefix ∧
      (a.members == b.members) = true := by
  show (a.path == b.path && a.kind == b.kind && a.wantsNamespacePrefix == b.wantsNamespacePrefix &&
    a.members == b.members) = true ↔ _
  simp only [Bool.and_eq_true, beq_iff_eq, and_assoc]

instance : EquivBEq Folder where
  rfl := beq_iff.2 ⟨BEq.rfl, rfl, rfl, BEq.rfl⟩
  symm h := by
    obtain ⟨hpath, hkind, hflag, hmembers⟩ := beq_iff.1 h
    exact beq_iff.2 ⟨BEq.symm hpath, hkind.symm, hflag.symm, BEq.symm hmembers⟩
  trans h h' := by
    obtain ⟨hpath, hkind, hflag, hmembers⟩ := beq_iff.1 h
    obtain ⟨hpath', hkind', hflag', hmembers'⟩ := beq_iff.1 h'
    exact beq_iff.2 ⟨BEq.trans hpath hpath', hkind.trans hkind', hflag.trans hflag', BEq.trans hmembers hmembers'⟩

theorem isCompatibleWith_iff :
    a.isCompatibleWith b = true ↔ a.kind = b.kind ∧ a.wantsNamespacePrefix = b.wantsNamespacePrefix := by
  simp [isCompatibleWith]

end Folder

/-! ## Files -/

namespace PathSet

variable {s t : PathSet} {folders folders' : List Folder}

/-- **The files of some folders, taken together,** each spelled as one of them spells it. -/
structure GatheredFrom (members : PathSet) (folders : List Folder) : Prop where
  contains : ∀ x, members.contains x = true ↔ ∃ f ∈ folders, f.members.contains x = true
  spelled : ∀ x ∈ members.toList, ∃ f ∈ folders, x ∈ f.members.toList

theorem gatheredFrom_empty : PathSet.empty.GatheredFrom [] := ⟨by simp, nofun⟩

theorem gatheredFrom_singleton (f : Folder) : f.members.GatheredFrom [f] := ⟨by simp, by simp⟩

/-- **The files of all** are those of some and those of the others. -/
theorem GatheredFrom.union (hs : s.GatheredFrom folders) (ht : t.GatheredFrom folders') :
    (s.union t).GatheredFrom (folders ++ folders') where
  contains x := by
    rw [contains_union, Bool.or_eq_true, hs.contains, ht.contains]
    simp only [List.mem_append, or_and_right, exists_or]
  spelled x hx := by
    rcases mem_toList_union hx with hx | hx
    · obtain ⟨f, hf, hfx⟩ := hs.spelled x hx
      exact ⟨f, List.mem_append_left _ hf, hfx⟩
    · obtain ⟨f, hf, hfx⟩ := ht.spelled x hx
      exact ⟨f, List.mem_append_right _ hf, hfx⟩

theorem GatheredFrom.congr (hs : s.GatheredFrom folders) (hmem : ∀ f, f ∈ folders ↔ f ∈ folders') :
    s.GatheredFrom folders' where
  contains x := by
    simp only [← hmem]
    exact hs.contains x
  spelled x hx := by
    simp only [← hmem]
    exact hs.spelled x hx

/-- **The files of the same folders** are the same. -/
theorem GatheredFrom.beq (hs : s.GatheredFrom folders) (ht : t.GatheredFrom folders')
    (hmem : ∀ f, f ∈ folders ↔ f ∈ folders') : (s == t) = true := by
  rw [beq_iff]
  intro x
  rw [Bool.eq_iff_iff, (hs.congr hmem).contains, ht.contains]

end PathSet

namespace Folder

variable {a b f g : Folder} {folders folders' : List Folder}

/-! ## Two folders -/

/-- **Two folders may merge:** they agree on kind and flag, and one path begins the other. -/
structure Mergeable (a b : Folder) : Prop where
  compatible : a.isCompatibleWith b = true
  related : a.path.components <+: b.path.components ∨ b.path.components <+: a.path.components

/-- The path with fewer steps, the first one if both have as many. -/
def upperPath (a b : Folder) : Path := if a.path.segmentCount ≤ b.path.segmentCount then a.path else b.path

/-- **What merging does.** -/
theorem merge_cases (a b : Folder) :
    (Mergeable a b ∧ a.merge b = .ok { a with path := a.upperPath b, members := a.members.union b.members }) ∨
    (¬ Mergeable a b ∧ ∃ e, a.merge b = .error e) := by
  by_cases hcompatible : a.isCompatibleWith b = true
  · by_cases hle : a.path.segmentCount ≤ b.path.segmentCount
    · by_cases hpre : a.path.components <+: b.path.components
      · refine .inl ⟨⟨hcompatible, .inl hpre⟩, ?_⟩
        simp [merge, upperPath, hcompatible, hle, Path.startsWith_iff.2 hpre]
      · have hnot : ¬ Mergeable a b := by
          rintro ⟨-, h | h⟩
          · exact hpre h
          · exact hpre (h.eq_of_length_le hle ▸ List.prefix_refl _)
        refine .inr ⟨hnot, .inconsistent (.unrelated a.path b.path), ?_⟩
        simp [merge, hcompatible, hle, Path.startsWith_iff, hpre]
    · by_cases hpre : b.path.components <+: a.path.components
      · refine .inl ⟨⟨hcompatible, .inr hpre⟩, ?_⟩
        simp [merge, upperPath, hcompatible, hle, Path.startsWith_iff.2 hpre]
      · have hnot : ¬ Mergeable a b := by
          rintro ⟨-, h | h⟩
          · exact hle h.length_le
          · exact hpre h
        refine .inr ⟨hnot, .inconsistent (.unrelated b.path a.path), ?_⟩
        simp [merge, hcompatible, hle, Path.startsWith_iff, hpre]
  · refine .inr ⟨fun h => hcompatible h.compatible, .inconsistent (.incompatible a.kind a.path b.kind b.path), ?_⟩
    simp [merge, hcompatible]

theorem Mergeable.merge_eq (h : Mergeable a b) :
    a.merge b = .ok { a with path := a.upperPath b, members := a.members.union b.members } := by
  rcases merge_cases a b with ⟨-, heq⟩ | ⟨hnot, -⟩
  · exact heq
  · exact absurd h hnot

theorem mergeable_iff : Mergeable a b ↔ ∃ f, a.merge b = .ok f := by
  constructor
  · intro h
    exact ⟨_, h.merge_eq⟩
  · rintro ⟨f, hf⟩
    rcases merge_cases a b with ⟨h, -⟩ | ⟨-, e, he⟩
    · exact h
    · exact absurd (he.symm.trans hf) nofun

theorem Mergeable.symm (h : Mergeable a b) : Mergeable b a where
  compatible := by
    obtain ⟨hkind, hflag⟩ := isCompatibleWith_iff.1 h.compatible
    exact isCompatibleWith_iff.2 ⟨hkind.symm, hflag.symm⟩
  related := h.related.symm

/-- The upper path of two folders that may merge begins both paths. -/
theorem Mergeable.upperPath_begins (h : Mergeable a b) :
    (a.upperPath b).components <+: a.path.components ∧ (a.upperPath b).components <+: b.path.components := by
  unfold upperPath
  split
  · next hle =>
    refine ⟨List.prefix_refl _, ?_⟩
    rcases h.related with hpre | hpre
    · exact hpre
    · exact hpre.eq_of_length_le hle ▸ List.prefix_refl _
  · next hgt =>
    refine ⟨?_, List.prefix_refl _⟩
    rcases h.related with hpre | hpre
    · exact absurd hpre.length_le hgt
    · exact hpre

theorem upperPath_eq_or (a b : Folder) : a.upperPath b = a.path ∨ a.upperPath b = b.path := by
  unfold upperPath
  split
  · exact .inl rfl
  · exact .inr rfl

/-! ## Any folders -/

/-- **A folder that others were merged into:** it agrees with all of them, it is where one of them was, at or above all
    of them, and it has their files. -/
structure MergedFrom (f : Folder) (folders : List Folder) : Prop where
  compatible : ∀ a ∈ folders, f.isCompatibleWith a = true
  begins : ∀ a ∈ folders, f.path.components <+: a.path.components
  placed : ∃ a ∈ folders, f.path = a.path
  members : f.members.GatheredFrom folders

theorem mergedFrom_singleton (a : Folder) : a.MergedFrom [a] where
  compatible := by simp [isCompatibleWith]
  begins := by simp
  placed := ⟨a, List.mem_cons_self, rfl⟩
  members := PathSet.gatheredFrom_singleton a

/-- **Merging goes on from what was merged before.** -/
theorem MergedFrom.merge (ha : a.MergedFrom folders) (hb : b.MergedFrom folders') (h : a.merge b = .ok f) :
    f.MergedFrom (folders ++ folders') := by
  have hmergeable : Mergeable a b := mergeable_iff.2 ⟨f, h⟩
  obtain ⟨hkind, hflag⟩ := isCompatibleWith_iff.1 hmergeable.compatible
  obtain ⟨hbegins, hbegins'⟩ := hmergeable.upperPath_begins
  obtain rfl : _ = f := Except.ok.inj (hmergeable.merge_eq.symm.trans h)
  refine ⟨?compatible, ?begins, ?placed, ha.members.union hb.members⟩
  case compatible =>
    intro c hc
    rw [isCompatibleWith_iff]
    rcases List.mem_append.1 hc with hc | hc
    · exact isCompatibleWith_iff.1 (ha.compatible c hc)
    · obtain ⟨hkind', hflag'⟩ := isCompatibleWith_iff.1 (hb.compatible c hc)
      exact ⟨hkind.trans hkind', hflag.trans hflag'⟩
  case begins =>
    intro c hc
    rcases List.mem_append.1 hc with hc | hc
    · exact hbegins.trans (ha.begins c hc)
    · exact hbegins'.trans (hb.begins c hc)
  case placed =>
    rcases upperPath_eq_or a b with heq | heq
    · obtain ⟨c, hc, hpath⟩ := ha.placed
      exact ⟨c, List.mem_append_left _ hc, heq.trans hpath⟩
    · obtain ⟨c, hc, hpath⟩ := hb.placed
      exact ⟨c, List.mem_append_right _ hc, heq.trans hpath⟩

/-- **There is one folder** that some folders can be merged into, up to spelling. -/
theorem MergedFrom.beq (hf : f.MergedFrom folders) (hg : g.MergedFrom folders')
    (hmem : ∀ a, a ∈ folders ↔ a ∈ folders') : (f == g) = true := by
  obtain ⟨a, ha, hfa⟩ := hf.placed
  obtain ⟨b, hb, hgb⟩ := hg.placed
  -- each path begins the other, since each is that of a folder that went into both
  have hfg : f.path.components <+: g.path.components := hgb ▸ hf.begins b ((hmem b).2 hb)
  have hgf : g.path.components <+: f.path.components := hfa ▸ hg.begins a ((hmem a).1 ha)
  obtain ⟨hkind, hflag⟩ := isCompatibleWith_iff.1 (hf.compatible a ha)
  obtain ⟨hkind', hflag'⟩ := isCompatibleWith_iff.1 (hg.compatible a ((hmem a).1 ha))
  rw [beq_iff]
  refine ⟨?path, hkind.trans hkind'.symm, hflag.trans hflag'.symm, hf.members.beq hg.members hmem⟩
  case path => exact Path.beq_iff.2 (hfg.eq_of_length_le hgf.length_le)

/-! ## Laws -/

/-- **Two merges end alike:** both fail, or both succeed with the same folder, up to spelling. -/
inductive MergesAlike : Except Error Folder → Except Error Folder → Prop
  | ok {f g : Folder} : (f == g) = true → MergesAlike (.ok f) (.ok g)
  | error {e e' : Error} : MergesAlike (.error e) (.error e')

theorem merge_comm (a b : Folder) : MergesAlike (a.merge b) (b.merge a) := by
  rcases merge_cases a b with ⟨h, -⟩ | ⟨hnot, e, he⟩
  · obtain ⟨f, hf⟩ := mergeable_iff.1 h
    obtain ⟨g, hg⟩ := mergeable_iff.1 h.symm
    have hab : f.MergedFrom [a, b] := (mergedFrom_singleton a).merge (mergedFrom_singleton b) hf
    have hba : g.MergedFrom [b, a] := (mergedFrom_singleton b).merge (mergedFrom_singleton a) hg
    rw [hf, hg]
    exact .ok (hab.beq hba fun c => (List.Perm.swap b a []).mem_iff)
  · rcases merge_cases b a with ⟨h, -⟩ | ⟨-, e', he'⟩
    · exact absurd h.symm hnot
    · rw [he, he']
      exact .error

theorem merge_self (a : Folder) : a.merge a = .ok a := by
  have h : Mergeable a a := ⟨isCompatibleWith_iff.2 ⟨rfl, rfl⟩, .inl (List.prefix_refl _)⟩
  have hpath : a.upperPath a = a.path := ite_self _
  rw [h.merge_eq, hpath, PathSet.union_self]

/-- **Merging is a partial join.** Two folders merge exactly when they agree on kind and flag and one path begins the
    other, whatever the spellings; the merged folder is where the upper one was and has the files of both. Merging is
    commutative, failures included, and idempotent to the letter; and it is associative wherever both ways of merging
    three folders succeed. -/
theorem merge_is_partial_join (a b c : Folder) :
    ((∃ f, a.merge b = .ok f) ↔
      a.kind = b.kind ∧ a.wantsNamespacePrefix = b.wantsNamespacePrefix ∧
        (a.path.components <+: b.path.components ∨ b.path.components <+: a.path.components)) ∧
    (∀ f, a.merge b = .ok f → f.MergedFrom [a, b]) ∧
    MergesAlike (a.merge b) (b.merge a) ∧
    a.merge a = .ok a ∧
    ∀ ab bc f g, a.merge b = .ok ab → ab.merge c = .ok f → b.merge c = .ok bc → a.merge bc = .ok g →
      (f == g) = true := by
  refine ⟨?_, ?_, merge_comm a b, merge_self a, ?_⟩
  · rw [← mergeable_iff]
    constructor
    · intro h
      obtain ⟨hkind, hflag⟩ := isCompatibleWith_iff.1 h.compatible
      exact ⟨hkind, hflag, h.related⟩
    · rintro ⟨hkind, hflag, hrelated⟩
      exact ⟨isCompatibleWith_iff.2 ⟨hkind, hflag⟩, hrelated⟩
  · intro f hf
    exact (mergedFrom_singleton a).merge (mergedFrom_singleton b) hf
  · intro ab bc f g hab hf hbc hg
    have ha := mergedFrom_singleton a
    have hb := mergedFrom_singleton b
    have hc := mergedFrom_singleton c
    have hleft : f.MergedFrom ([a] ++ [b] ++ [c]) := (ha.merge hb hab).merge hc hf
    have hright : g.MergedFrom ([a] ++ ([b] ++ [c])) := ha.merge (hb.merge hc hbc) hg
    exact hleft.beq hright fun _ => Iff.rfl

theorem merge_is_partial_join_src :
    let upper : Folder := ⟨.ofText "src//", .source, true, .ofList [.ofText "src/a/X.java"]⟩
    let middle : Folder := ⟨.ofText "src/./a", .source, true, .ofList [.ofText "src//a/X.java", .ofText "src/a/Y.java"]⟩
    let lower : Folder := .ofKind .source (.ofText "src/a/b")
    ∃ first second f g, middle.merge upper = .ok first ∧ first.merge lower = .ok f ∧ upper.merge lower = .ok second ∧
      middle.merge second = .ok g ∧ (f == g) = true := by
  intro upper middle lower
  refine ⟨_, _, _, _, rfl, rfl, rfl, rfl, ?_⟩
  obtain ⟨-, -, -, -, hassoc⟩ := merge_is_partial_join middle upper lower
  exact hassoc _ _ _ _ rfl rfl rfl rfl

/-- Side by side there is nothing to merge, though each folder merges with one above both. -/
example :
    let folder (path : String) : Folder := .ofKind .source (.ofText path)
    ((folder "src/a").merge (folder "src/b")).isOk = false ∧ ((folder "src/a").merge (folder "src")).isOk = true ∧
      ((folder "src").merge (folder "src/b")).isOk = true := by decide

end Folder

end RootFold
