import RootFold.Proofs.Pass.Exclusion

/-!
# `RootFold.Proofs.Pass.InputOrder` — the order of the folders does not matter

What a pass does on the way depends on order at every turn: what is known about a directory first stands, the first
folder inside a directory is the template, and trees are walked in the order in which their edges came. The sort at the
beginning settles all of this. Folders at different paths have one order by path, so lists of the same folders are sorted
into the same declared ones and the same excluded ones; where an excluded folder shares its path with a declared one,
their order may differ, but they never meet.
-/

namespace RootFold

variable {resolver : Resolver} {folders folders' : List Folder}

/-- **Folders at different paths have one order.** -/
theorem eq_of_perm_of_sorted (hd : Distinct folders) (hperm : folders.Perm folders')
    (hsorted : folders.Pairwise fun a b => a.path.le b.path = true)
    (hsorted' : folders'.Pairwise fun a b => a.path.le b.path = true) : folders = folders' := by
  refine hperm.eq_of_pairwise (fun a b ha hb hab hba => ?_) hsorted hsorted'
  apply eq_of_distinct hd ha (hperm.mem_iff.2 hb)
  rcases Path.le_iff.1 hab with hlt | heq
  · rcases Path.le_iff.1 hba with hgt | heq
    · exact absurd (Path.lt_trans hlt hgt) (Path.lt_irrefl _)
    · exact BEq.symm heq
  · exact heq

theorem sortByPath_eq_of_perm (hd : Distinct folders) (hperm : folders.Perm folders') :
    sortByPath folders = sortByPath folders' := by
  have hsort : ∀ l : List Folder, (sortByPath l).Perm l := fun l => List.mergeSort_perm l _
  have hd' : Distinct (sortByPath folders) := (Distinct.perm (hsort folders)).2 hd
  exact eq_of_perm_of_sorted hd' ((hsort folders).trans (hperm.trans (hsort folders').symm)) (sortByPath_sorted folders)
    (sortByPath_sorted folders')

/-- **The order of the folders does not matter.** Two passes over the same folders in any two orders, the excluded ones
    among them at different paths, ask about the same files in the same order, and both succeed with the same result, or
    both fail in the same way. -/
theorem simplify_perm (resolver : Resolver) (hperm : folders.Perm folders')
    (hd : Distinct (folders.filter (·.isExcluded))) :
    resolverCalls resolver folders = resolverCalls resolver folders' ∧
      PassesAlike (· = ·) (simplify resolver folders) (simplify resolver folders') := by
  have hdeclared : (declaredFolders folders).Perm (declaredFolders folders') := hperm.filter _
  have hsame : Independent (declaredFolders folders) →
      declaredFolders (sortByPath folders) = declaredFolders (sortByPath folders') := by
    intro hi
    rw [declaredFolders_sortByPath, declaredFolders_sortByPath]
    exact sortByPath_eq_of_perm (independent_iff.1 hi).1 hdeclared
  have hexcluded : (sortByPath folders).filter (·.isExcluded) = (sortByPath folders').filter (·.isExcluded) := by
    rw [filter_isExcluded_sortByPath, filter_isExcluded_sortByPath]
    exact sortByPath_eq_of_perm hd (hperm.filter _)
  refine ⟨resolverCalls_of_same_declared resolver hdeclared hsame, passesAlike_of_perm hdeclared fun hi => ?_⟩
  obtain ⟨acc, heq, heq'⟩ := exists_simplify_of_same_declared resolver hi (hsame hi)
  exact ⟨_, _, heq, heq', by rw [hexcluded]⟩

/-- Folders out of order, two of them at one path, one of these excluded. -/
def outOfOrder : List Folder :=
  [.ofKind .source (.ofText "app/b"), .ofKind .exclude (.ofText "app/b"), .ofKind .exclude (.ofText "app"),
    .ofKind .source (.ofText "app/a")]

theorem simplify_perm_outOfOrder :
    resolverCalls .directory outOfOrder = resolverCalls .directory outOfOrder.reverse ∧
      ∃ out, simplify .directory outOfOrder = .ok out ∧ simplify .directory outOfOrder.reverse = .ok out := by
  have hd : Distinct (outOfOrder.filter (·.isExcluded)) := by
    unfold Distinct
    decide
  have hi : Independent (declaredFolders outOfOrder) := independent_of_not_prefix (by decide)
  obtain ⟨acc, heq, -⟩ := exists_simplify .directory hi
  obtain ⟨hcalls, halike⟩ := simplify_perm .directory (List.reverse_perm outOfOrder).symm hd
  refine ⟨hcalls, _, heq, ?_⟩
  rw [heq] at halike
  generalize simplify .directory outOfOrder.reverse = run at halike
  cases halike with
  | ok hsame => rw [hsame]

end RootFold
