import RootFold.Merge.Walk
import RootFold.Proofs.Folder.Merge
import RootFold.Proofs.Merge.Absorption

/-!
# `RootFold.Proofs.Merge.Node` — what one directory of a walk does

One equation or one existence statement for each function that a directory's turn goes through. None of them fails
on folders that lie below the directory: the depth is known, the kinds agree once the test was passed, and the
merged folder is always the upper one of the two that are merged.

## Contents
- **Runs.** `bind_ok` and its kin, to run a part of a pass on a state; `forM_cons_ok` for a loop.
- **The test.** `exists_absorbAll`.
- **Merging.** `merge_eq`, `mergeAll_eq`; the members of a merged folder are those that `PathSet.gather` collects, and
  so `PathSet.GatheredFrom` the others.
- **Replacing.** `find?_replace`, `rel_find?_replace`.
- **The decision.** `mergeNode_blockedBelow`, `mergeNode_leaf`, `mergeNode_inside`.
-/

namespace RootFold

variable {ns : NamespaceCache} {α β : Type}

/-! ## Runs -/

/-- A run that succeeds goes on with its value and its state. -/
theorem bind_ok {ε σ : Type} {s s' : σ} {a : α} {x : EStateM ε σ α} (h : x s = .ok a s')
    (f : α → EStateM ε σ β) : (x >>= f) s = f a s' := by
  show EStateM.bind x f s = f a s'
  rw [EStateM.bind, h]

/-- A run that fails goes no further. -/
theorem bind_error {ε σ : Type} {s s' : σ} {e : ε} {x : EStateM ε σ α} (h : x s = .error e s')
    (f : α → EStateM ε σ β) : (x >>= f) s = .error e s' := by
  show EStateM.bind x f s = .error e s'
  rw [EStateM.bind, h]

/-- A loop whose first turn succeeds goes on with the others. -/
theorem forM_cons_ok {ε σ : Type} {s s' : σ} {a : α} {g : α → EStateM ε σ Unit} (h : g a s = .ok () s')
    (as : List α) : (a :: as).forM g s = as.forM g s' := by
  show (g a >>= fun _ => as.forM g) s = as.forM g s'
  rw [bind_ok h]

/-- A loop whose first turn fails goes no further. -/
theorem forM_cons_error {ε σ : Type} {s s' : σ} {e : ε} {a : α} {g : α → EStateM ε σ Unit}
    (h : g a s = .error e s') (as : List α) : (a :: as).forM g s = .error e s' := by
  show (g a >>= fun _ => as.forM g) s = .error e s'
  rw [bind_error h]

namespace PassM

theorem note_eq (notes : List Note) (s : Pass) : note notes s = .ok () { s with notes := s.notes ++ notes } := rfl

theorem ofExcept_ok (a : α) (s : Pass) : ofExcept (.ok a) s = .ok a s := rfl

end PassM

/-! ## The test -/

/-- **All folders below a directory are tested** without a failure, and without a change but for the notes. -/
theorem exists_absorbAll (ns : NamespaceCache) (node : Path) {template : Folder} {folders : List Folder}
    (hin : ∀ f ∈ folders, template.path.IsAbove f.path) (s : Pass) :
    ∃ b notes, absorbAll ns node template folders s = .ok b ⟨s.accumulator, notes⟩ ∧
      (b = true ↔ ∀ f ∈ folders, Absorbs ns template f) := by
  induction folders generalizing s with
  | nil => exact ⟨true, s.notes, rfl, by simp⟩
  | cons f rest ih =>
    obtain ⟨v, hv, hfav⟩ := exists_verdict ns (hin f (by simp))
    -- the test goes on after a favourable verdict only
    rw [absorbAll, hv, bind_ok (PassM.ofExcept_ok v s), bind_ok (PassM.note_eq v.notes s)]
    cases hb : v.isFavourable with
    | true =>
      obtain ⟨b, notes, heq, hiff⟩ := ih (fun g hg => hin g (by simp [hg])) { s with notes := s.notes ++ v.notes }
      exact ⟨b, notes, heq, by rw [hiff, List.forall_mem_cons]; exact ⟨fun h => ⟨hfav.1 hb, h⟩, And.right⟩⟩
    | false =>
      refine ⟨false, _, rfl, fun h => absurd h (by simp), fun h => ?_⟩
      exact absurd (hfav.2 (h f (by simp))) (by simp [hb])

/-! ## Merging -/

/-- **A folder merged with one above it** goes to the upper path with the members of both. -/
theorem merge_eq {child upper : Folder} (h : Absorbs ns upper child) (hin : upper.path.IsAbove child.path) :
    child.merge upper =
      .ok { child with path := upper.path, members := child.members.union upper.members } := by
  have hmergeable : child.Mergeable upper :=
    ⟨Folder.isCompatibleWith_iff.2 ⟨h.kind.symm, h.flag.symm⟩, .inr hin.begins⟩
  have hupper : child.upperPath upper = upper.path := if_neg (Nat.not_le.2 hin.shorter)
  rw [hmergeable.merge_eq, hupper]

/-- **Add the files of some folders,** one folder after the other; where two spell a file in different ways the later
    one stands. -/
def PathSet.gather (members : PathSet) (folders : List Folder) : PathSet :=
  folders.foldl (fun gathered f => f.members.union gathered) members

/-- More folders' files are added to those of some. -/
theorem PathSet.GatheredFrom.gather {members : PathSet} {folders others : List Folder}
    (h : members.GatheredFrom others) : (members.gather folders).GatheredFrom (folders ++ others) := by
  induction folders generalizing members others with
  | nil => exact h
  | cons f rest ih =>
    have hf : (f.members.union members).GatheredFrom ([f] ++ others) := (gatheredFrom_singleton f).union h
    apply (ih hf).congr
    intro g
    simp [or_left_comm]

theorem PathSet.gatheredFrom_gather (folders : List Folder) :
    (PathSet.empty.gather folders).GatheredFrom folders := by
  have h : (PathSet.empty.gather folders).GatheredFrom (folders ++ []) := gatheredFrom_empty.gather
  rwa [List.append_nil] at h

/-- **All folders below a directory are merged** into one that is the template but for its files. -/
theorem mergeAll_eq {template : Folder} {folders : List Folder} (h : ∀ f ∈ folders, Absorbs ns template f)
    (hin : ∀ f ∈ folders, template.path.IsAbove f.path) :
    mergeAll template folders = .ok { template with members := template.members.gather folders } := by
  induction folders generalizing template with
  | nil => rfl
  | cons f rest ih =>
    have hf := h f (by simp)
    -- what was merged so far has the template's path, kind and flag, so the test still holds for the others
    have hmerge : f.merge template = .ok { template with members := f.members.union template.members } := by
      rw [merge_eq hf (hin f (by simp)), hf.kind, hf.flag]
    have hrest : ∀ g ∈ rest, Absorbs ns { template with members := f.members.union template.members } g :=
      fun g hg => ⟨(h g (by simp [hg])).kind, (h g (by simp [hg])).flag, (h g (by simp [hg])).follows⟩
    rw [mergeAll, List.foldlM_cons, hmerge]
    exact ih hrest fun g hg => hin g (by simp [hg])

/-- **The folder that some folders become** at a directory above them: in kind and flag like the first of them, with the
    files of all. -/
def Folder.joined (first : Folder) (node : Path) (folders : List Folder) : Folder :=
  { first.relocated node with members := PathSet.empty.gather folders }

@[simp] theorem Folder.path_joined (first : Folder) (node : Path) (folders : List Folder) :
    (first.joined node folders).path = node := rfl

/-! ## Replacing -/

theorem find?_replace {acc : Accumulator} {absorbed : List Folder} {merged : Folder} {q : Path} :
    (acc.replace absorbed merged).find? q =
      if q == merged.path then some merged
      else if absorbed.any (fun f => q == f.path) then none else acc.find? q := by
  rw [Accumulator.replace, PathMap.find?_insert, PathMap.find?_foldl_erase Folder.path]

/-- **Replacing keeps a relation** between the folders that are held, as long as the same places are emptied. -/
theorem rel_find?_replace {R : Folder → Folder → Prop} {acc acc' : Accumulator} {absorbed absorbed' : List Folder}
    {f f' : Folder} (h : ∀ q, Option.Rel R (acc.find? q) (acc'.find? q))
    (hany : ∀ q, absorbed.any (fun a => q == a.path) = absorbed'.any fun a => q == a.path)
    (hpath : (f.path == f'.path) = true) (hf : R f f') (q : Path) :
    Option.Rel R ((acc.replace absorbed f).find? q) ((acc'.replace absorbed' f').find? q) := by
  rw [find?_replace, find?_replace, hany, BEq.congr_right hpath]
  split
  · exact .some hf
  · split
    · exact .none
    · exact h q

/-! ## The decision -/

theorem allMerged?_eq_some {outcomes : List Outcome} {folders : List Folder}
    (h : allMerged? outcomes = some folders) : outcomes = folders.map .merged := by
  induction outcomes generalizing folders with
  | nil =>
    obtain rfl := Option.some.inj h
    rfl
  | cons o rest ih =>
    cases o with
    | blocked => exact absurd h (by simp [allMerged?])
    | merged f =>
      obtain ⟨others, hothers, rfl⟩ := Option.map_eq_some_iff.1 h
      rw [ih hothers, List.map_cons]

theorem allMerged?_map_merged (folders : List Folder) : allMerged? (folders.map .merged) = some folders := by
  induction folders with
  | nil => rfl
  | cons f rest ih => rw [List.map_cons, allMerged?, ih]; rfl

theorem allMerged?_eq_none {outcomes : List Outcome} (h : allMerged? outcomes = none) : .blocked ∈ outcomes := by
  induction outcomes with
  | nil => exact absurd h (by simp [allMerged?])
  | cons o rest ih =>
    cases o with
    | blocked => exact List.mem_cons_self
    | merged f => exact List.mem_cons_of_mem _ (ih (by simpa [allMerged?] using h))

variable {node : Path} {outcomes : List Outcome} {folders : List Folder} {s : Pass}

/-- A directory above a blocked one is blocked. -/
theorem mergeNode_blockedBelow (ns : NamespaceCache) (node : Path) (h : allMerged? outcomes = none) (s : Pass) :
    ∃ notes, mergeNode ns node outcomes s = .ok .blocked ⟨s.accumulator, notes⟩ := by
  rw [mergeNode, h]
  exact ⟨_, rfl⟩

/-- A directory with nothing inside is the folder that is held there. -/
theorem mergeNode_leaf {f : Folder} (hall : allMerged? outcomes = some [])
    (h : s.accumulator.find? node = some f) : mergeNode ns node outcomes s = .ok (.merged f) s := by
  rw [mergeNode, hall]
  simp only
  rw [bind_ok (show (get : PassM Pass) s = .ok s s from rfl), h]
  rfl

/-- **A directory with folders below it** and none at its own place becomes one folder, if the template may absorb
    them all, and is blocked otherwise. -/
theorem mergeNode_inside (ns : NamespaceCache) {first : Folder} {rest : List Folder}
    (hall : allMerged? outcomes = some (first :: rest)) (hin : ∀ f ∈ first :: rest, node.IsAbove f.path)
    (hfree : s.accumulator.contains node = false) :
    ((∀ f ∈ first :: rest, Absorbs ns (first.relocated node) f) ∧
      ∃ notes, mergeNode ns node outcomes s =
        .ok (.merged (first.joined node (first :: rest)))
          ⟨s.accumulator.replace (first :: rest) (first.joined node (first :: rest)), notes⟩) ∨
    ((¬ ∀ f ∈ first :: rest, Absorbs ns (first.relocated node) f) ∧
      ∃ notes, mergeNode ns node outcomes s = .ok .blocked ⟨s.accumulator, notes⟩) := by
  have hin' : ∀ f ∈ first :: rest, (first.relocated node).path.IsAbove f.path := hin
  obtain ⟨b, notes, htest, hiff⟩ := exists_absorbAll ns node hin' s
  have hstart : mergeNode ns node outcomes s =
      (do
        if ← absorbAll ns node (first.relocated node) (first :: rest) then
          let folder ← PassM.ofExcept (mergeAll (first.relocated node) (first :: rest))
          PassM.note [.merged node (rest.length + 1) folder.kind]
          modify fun s => { s with accumulator := Accumulator.replace s.accumulator (first :: rest) folder }
          pure (.merged folder)
        else pure .blocked : PassM Outcome) s := by
    rw [mergeNode, hall]
    simp only
    rw [bind_ok (show (get : PassM Pass) s = .ok s s from rfl), hfree, if_neg (by simp)]
  rw [hstart, bind_ok htest]
  cases b with
  | false =>
    exact .inr ⟨fun h => absurd (hiff.2 h) (by simp), notes, rfl⟩
  | true =>
    have habs := hiff.1 rfl
    refine .inl ⟨habs, notes ++ [.merged node (rest.length + 1) first.kind], ?_⟩
    rw [if_pos rfl, mergeAll_eq habs hin]
    rfl

/-! ## Waiting outcomes -/

/-- **The outcomes that are waited for are taken out,** each once. -/
theorem exists_takeOutcomes {finished : Finished} {paths : List Path}
    (hne : paths.Pairwise fun a b => ¬ (a == b) = true) (h : ∀ p ∈ paths, ∃ o, finished.find? p = some o) :
    ∃ outcomes left, takeOutcomes finished paths = .ok (outcomes, left) ∧
      outcomes.map some = paths.map finished.find? ∧
      ∀ q, left.find? q = if paths.any (q == ·) then none else finished.find? q := by
  induction paths generalizing finished with
  | nil => exact ⟨[], finished, rfl, rfl, fun q => rfl⟩
  | cons p rest ih =>
    obtain ⟨hp, hrest⟩ := List.pairwise_cons.1 hne
    obtain ⟨o, ho⟩ := h p (by simp)
    -- taking one outcome out leaves those of the other paths
    have hother : ∀ q ∈ rest, (finished.erase p).find? q = finished.find? q := by
      intro q hq
      rw [PathMap.find?_erase, if_neg fun he => hp q hq (BEq.symm he)]
    have hwait : ∀ q ∈ rest, ∃ o, (finished.erase p).find? q = some o := by
      intro q hq
      rw [hother q hq]
      exact h q (by simp [hq])
    obtain ⟨outcomes, left, htake, hmap, hleft⟩ := ih hrest hwait
    refine ⟨o :: outcomes, left, ?_, ?_, fun q => ?_⟩
    · rw [takeOutcomes, ho]
      simp only
      rw [htake]
      rfl
    · rw [List.map_cons, List.map_cons, ho, hmap, List.map_congr_left hother]
    · rw [hleft, List.any_cons, PathMap.find?_erase]
      cases q == p <;> simp

end RootFold
