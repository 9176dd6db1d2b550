import RootFold.Proofs.Pass.Acceptance
import RootFold.Proofs.Pass.Evaluation

/-!
# `RootFold.Proofs.Pass.Exclusion` — excluded folders are inert

Excluded folders may stand anywhere among the others: at the same path, above it, inside it, or several at one path.
Preparation sets them aside before anything is asked or registered, and sorting is stable, so the folders that take part
in merging are prepared as if they were alone. Two passes over the same of these end alike, whatever else is in the
lists; and what was set aside comes out as it went in.

## Contents
- **Sorting.** `declaredFolders_sortByPath`, `filter_isExcluded_sortByPath`, `filter_path_sortByPath`.
- **Two passes.** `PassesAlike`; lists with the same declared folders, `exists_simplify_of_same_declared`.
- **Questions.** `resolverCalls_of_prepare`, `resolverCalls_of_same_declared`.
- **Results.** `simplify_ignores_excluded`.
-/

namespace RootFold

variable {resolver : Resolver} {folders folders' : List Folder} {acc : Accumulator}

/-! ## Sorting -/

theorem filter_sortByPath (p : Folder → Bool) (folders : List Folder) :
    (sortByPath folders).filter p = sortByPath (folders.filter p) :=
  filter_mergeSort (fun a b c => @Path.le_trans a.path b.path c.path) (fun a b => Path.le_total a.path b.path) p folders

/-- The folders that take part in merging are sorted as if they were alone. -/
theorem declaredFolders_sortByPath (folders : List Folder) :
    declaredFolders (sortByPath folders) = sortByPath (declaredFolders folders) := filter_sortByPath _ folders

/-- So are the excluded ones. -/
theorem filter_isExcluded_sortByPath (folders : List Folder) :
    (sortByPath folders).filter (·.isExcluded) = sortByPath (folders.filter (·.isExcluded)) := filter_sortByPath _ folders

/-- Folders at one path keep their order. -/
theorem filter_path_sortByPath (p : Path) (folders : List Folder) :
    (sortByPath folders).filter (·.path == p) = folders.filter (·.path == p) := by
  rw [filter_sortByPath]
  refine List.mergeSort_of_pairwise (List.pairwise_of_forall_mem_list fun a ha b hb => ?_)
  have hap : (a.path == p) = true := (List.mem_filter.1 ha).2
  have hbp : (b.path == p) = true := (List.mem_filter.1 hb).2
  exact Path.le_iff.2 (.inr (BEq.trans hap (BEq.symm hbp)))

/-- Where nothing is excluded all folders take part in merging. -/
theorem declaredFolders_eq_self (h : ∀ f ∈ folders, f.isExcluded = false) : declaredFolders folders = folders := by
  apply List.filter_eq_self.2
  intro f hf
  simp [h f hf]

theorem declaredFolders_declaredFolders (folders : List Folder) :
    declaredFolders (declaredFolders folders) = declaredFolders folders := by
  apply declaredFolders_eq_self
  intro f hf
  simpa using (List.mem_filter.1 hf).2

theorem filter_isExcluded_declaredFolders (folders : List Folder) :
    (sortByPath (declaredFolders folders)).filter (·.isExcluded) = [] := by
  rw [← declaredFolders_sortByPath, List.filter_eq_nil_iff]
  intro f hf
  simpa using (List.mem_filter.1 hf).2

/-! ## Two passes -/

/-- **Two passes end alike:** both succeed with results that are related, or both fail in the same way. -/
inductive PassesAlike (R : Simplified → Simplified → Prop) :
    Except Error Simplified → Except Error Simplified → Prop
  | ok {out out' : Simplified} : R out out' → PassesAlike R (.ok out) (.ok out')
  | duplicate {p p' : Path} : PassesAlike R (.error (.duplicateFolder p)) (.error (.duplicateFolder p'))
  | inconsistent {cause cause' : Inconsistency} :
    PassesAlike R (.error (.inconsistent cause)) (.error (.inconsistent cause'))

/-- **Passes over the same declared folders** fail in the same way, so only their successes have to be compared. -/
theorem passesAlike_of_perm {R : Simplified → Simplified → Prop}
    (hperm : (declaredFolders folders).Perm (declaredFolders folders'))
    (hok : Independent (declaredFolders folders) → ∃ out out', simplify resolver folders = .ok out ∧
      simplify resolver folders' = .ok out' ∧ R out out') :
    PassesAlike R (simplify resolver folders) (simplify resolver folders') := by
  have hcases' := simplify_cases resolver folders'
  rw [← Distinct.perm hperm, ← Unnested.perm hperm] at hcases'
  rcases simplify_cases resolver folders with ⟨hd, hu, -, -⟩ | ⟨hd, p, -, heq⟩ | ⟨hd, hu, p, q, -, heq⟩
  · obtain ⟨out, out', heq, heq', hR⟩ := hok (independent_iff.2 ⟨hd, hu⟩)
    rw [heq, heq']
    exact .ok hR
  · rcases hcases' with ⟨hd', -⟩ | ⟨-, p', -, heq'⟩ | ⟨hd', -⟩
    · exact absurd hd' hd
    · rw [heq, heq']
      exact .duplicate
    · exact absurd hd' hd
  · rcases hcases' with ⟨-, hu', -⟩ | ⟨hd', -⟩ | ⟨-, -, p', q', -, heq'⟩
    · exact absurd hu' hu
    · exact absurd hd hd'
    · rw [heq, heq']
      exact .inconsistent

/-- **A pass over the same declared folders** merges in the same way: the results differ in what was excluded only. -/
theorem exists_simplify_of_same_declared (resolver : Resolver) (hi : Independent (declaredFolders folders))
    (hsame : declaredFolders (sortByPath folders) = declaredFolders (sortByPath folders')) :
    ∃ acc, simplify resolver folders = .ok (.assemble ((sortByPath folders).filter (·.isExcluded)) acc) ∧
      simplify resolver folders' = .ok (.assemble ((sortByPath folders').filter (·.isExcluded)) acc) := by
  have hi' : Independent (declaredFolders folders') := by
    rw [← independent_sortByPath_iff, ← hsame]
    exact independent_sortByPath_iff.2 hi
  obtain ⟨_, hok, -⟩ := exists_simplify resolver hi
  have hcollapse := hok
  rw [simplify_eq_collapse resolver hi] at hcollapse
  obtain ⟨outcomes, acc, hroots, hout⟩ := Prepared.collapse_eq_ok_iff.1 hcollapse
  refine ⟨acc, hok.trans (congrArg Except.ok hout), ?_⟩
  -- the second pass starts from the same namespaces and the same folders
  rw [simplify_eq_collapse resolver hi']
  apply Prepared.collapse_eq_ok_iff.2
  rw [Prepared.ofFolders, namespacesOf, hsame] at hroots
  exact ⟨outcomes, acc, hroots, rfl⟩

/-! ## Questions -/

/-- **What a pass walks with has asked** about the files that the pass asks about, and about no others. -/
theorem resolverCalls_of_prepare {p : Prepared} {notes : List Note} (h : prepare resolver folders [] = .ok p notes) :
    resolverCalls resolver folders = p.namespaces.calls := by
  unfold prepare at h
  unfold resolverCalls
  -- both are about the same state, since no notes were made before
  cases htaken : takeIn resolver (sortByPath folders) ⟨.empty, []⟩ with
  | error e s =>
    rw [htaken] at h
    exact absurd h nofun
  | ok _ s =>
    rw [htaken] at h
    cases h
    rfl

/-- The files that a pass asks about, if it asks about any. -/
theorem resolverCalls_eq (resolver : Resolver) (hi : Independent (declaredFolders folders)) :
    resolverCalls resolver folders = (namespacesOf resolver folders).calls := by
  obtain ⟨notes, hprep⟩ := prepare_eq_ok resolver hi []
  exact resolverCalls_of_prepare hprep

/-- Nothing is asked about folders that the check refuses. -/
theorem resolverCalls_eq_nil (resolver : Resolver) (hi : ¬ Independent (declaredFolders folders)) :
    resolverCalls resolver folders = [] := by
  cases hval : validate (sortByPath folders) with
  | ok => exact absurd (independent_sortByPath_iff.1 (validate_eq_ok_iff.1 hval)) hi
  | error e =>
    rw [resolverCalls, takeIn_eq_error hval]
    rfl

/-- **The same questions** are asked in the same order. -/
theorem resolverCalls_of_same_declared (resolver : Resolver)
    (hperm : (declaredFolders folders).Perm (declaredFolders folders'))
    (hsame : Independent (declaredFolders folders) →
      declaredFolders (sortByPath folders) = declaredFolders (sortByPath folders')) :
    resolverCalls resolver folders = resolverCalls resolver folders' := by
  have hiff : Independent (declaredFolders folders) ↔ Independent (declaredFolders folders') := by
    rw [independent_iff, independent_iff, Distinct.perm hperm, Unnested.perm hperm]
  by_cases hi : Independent (declaredFolders folders)
  · rw [resolverCalls_eq resolver hi, resolverCalls_eq resolver (hiff.1 hi), namespacesOf, namespacesOf, hsame hi]
  · rw [resolverCalls_eq_nil resolver hi, resolverCalls_eq_nil resolver fun hi' => hi (hiff.2 hi')]

/-! ## Results -/

/-- Of folders that take part in merging none comes out excluded. -/
theorem not_isExcluded_of_simplify {out : Simplified} (h : simplify resolver (declaredFolders folders) = .ok out) :
    ∀ f ∈ out.folders, f.isExcluded = false := by
  have hnone : out.folders.filter (·.isExcluded) = [] :=
    (excluded_of_simplify h).trans (filter_isExcluded_declaredFolders folders)
  intro f hf
  simpa using List.filter_eq_nil_iff.1 hnone f hf

/-- **Excluded folders are inert.** A pass over any folders asks about the same files, in the same order, as a pass over
    those of them that are not excluded, and it succeeds when that one does, else it fails in the same way. Its result
    is in order, by path and then by kind; the folders in it that are not excluded are those of the other result, and
    the excluded ones are those that were given, by path, where those at one path keep their order. -/
theorem simplify_ignores_excluded (resolver : Resolver) (folders : List Folder) :
    resolverCalls resolver folders = resolverCalls resolver (declaredFolders folders) ∧
    PassesAlike (fun out alone =>
        out.merged = alone.folders ∧
        out.excluded = sortByPath (folders.filter (·.isExcluded)) ∧
        (∀ p : Path, out.excluded.filter (·.path == p) = (folders.filter (·.isExcluded)).filter (·.path == p)) ∧
        out.folders.Pairwise fun f g =>
          f.path < g.path ∨ (f.path == g.path) = true ∧ f.kind.rank ≤ g.kind.rank)
      (simplify resolver folders) (simplify resolver (declaredFolders folders)) := by
  have hdeclared := declaredFolders_declaredFolders folders
  have hsame : declaredFolders (sortByPath folders) = declaredFolders (sortByPath (declaredFolders folders)) := by
    rw [declaredFolders_sortByPath, declaredFolders_sortByPath, hdeclared]
  have hperm : (declaredFolders folders).Perm (declaredFolders (declaredFolders folders)) := by
    rw [hdeclared]
  refine ⟨resolverCalls_of_same_declared resolver hperm fun _ => hsame, passesAlike_of_perm hperm fun hi => ?_⟩
  obtain ⟨acc, heq, halone⟩ := exists_simplify_of_same_declared resolver hi hsame
  refine ⟨_, _, heq, halone, ?_, ?_, fun p => ?_, ?_⟩
  · have hkept := not_isExcluded_of_simplify halone
    rw [filter_isExcluded_declaredFolders] at hkept ⊢
    apply Simplified.merged_assemble_eq
    · intro f hf
      exact (List.mem_filter.1 hf).2
    · intro f hf
      exact hkept f (List.mem_mergeSort.2 hf)
  · rw [excluded_of_simplify heq, filter_isExcluded_sortByPath]
  · rw [excluded_of_simplify heq, filter_isExcluded_sortByPath, filter_path_sortByPath]
  · exact (Simplified.folders_sorted _ acc).imp Simplified.folderLe_iff.1

end RootFold
