import RootFold.Proofs.Merge.Outcome

/-!
# `RootFold.Proofs.Pass.Acceptance` — which folders a pass accepts, and how it refuses the others

A pass succeeds on folders with different paths of which none lies above another, whatever their kinds, flags and
members are and whatever the resolver answers. It refuses all others in its check, a repeated path before a nested
one. None of the errors that preparation, the walks and the merging of folders provide for is ever seen.
-/

namespace RootFold

variable {resolver : Resolver} {folders : List Folder}

/-- **A pass ends in one of three ways,** one for each answer of the check. -/
theorem simplify_cases (resolver : Resolver) (folders : List Folder) :
    (Distinct (declaredFolders folders) ∧ Unnested (declaredFolders folders) ∧
      validate (sortByPath folders) = .ok () ∧ ∃ out, simplify resolver folders = .ok out) ∨
    (¬ Distinct (declaredFolders folders) ∧ ∃ p, validate (sortByPath folders) = .error (.duplicateFolder p) ∧
      simplify resolver folders = .error (.duplicateFolder p)) ∨
    (Distinct (declaredFolders folders) ∧ ¬ Unnested (declaredFolders folders) ∧
      ∃ p q, validate (sortByPath folders) = .error (.inconsistent (.nestedDeclaration p q)) ∧
        simplify resolver folders = .error (.inconsistent (.nestedDeclaration p q))) := by
  have hperm := declaredFolders_sortByPath_perm folders
  have hcases := validate_cases (sortByPath folders)
  rw [Distinct.perm hperm, Unnested.perm hperm] at hcases
  rcases hcases with ⟨hd, hu, heq⟩ | ⟨hd, p, heq⟩ | ⟨hd, hu, p, q, heq⟩
  · obtain ⟨acc, hacc, -⟩ := exists_simplify resolver (independent_iff.2 ⟨hd, hu⟩)
    exact .inl ⟨hd, hu, heq, _, hacc⟩
  · exact .inr (.inl ⟨hd, p, heq, simplify_of_validate_error heq⟩)
  · exact .inr (.inr ⟨hd, hu, p, q, heq, simplify_of_validate_error heq⟩)

/-- **Acceptance.** A pass succeeds exactly on folders at different paths of which none is above another. A repeated
    path is reported as a duplicate, and a nested one as an inconsistency if no path is repeated. There is no other
    error than the check's, and on folders that the check accepts neither the preparation nor any walk fails. -/
theorem simplify_accepts_iff (resolver : Resolver) (folders : List Folder) :
    ((∃ out, simplify resolver folders = .ok out) ↔
      Distinct (declaredFolders folders) ∧ Unnested (declaredFolders folders)) ∧
    ((∃ p, simplify resolver folders = .error (.duplicateFolder p)) ↔ ¬ Distinct (declaredFolders folders)) ∧
    ((∃ p q, simplify resolver folders = .error (.inconsistent (.nestedDeclaration p q))) ↔
      Distinct (declaredFolders folders) ∧ ¬ Unnested (declaredFolders folders)) ∧
    (∀ e, simplify resolver folders = .error e ↔ validate (sortByPath folders) = .error e) ∧
    (validate folders = .ok () → ∀ notes, ∃ p notes' pass, prepare resolver folders notes = .ok p notes' ∧
      walkAll p.namespaces p.accumulator ⟨p.accumulator, notes'⟩ = .ok () pass) := by
  have hengine : validate folders = .ok () → ∀ notes, ∃ p notes' pass,
      prepare resolver folders notes = .ok p notes' ∧
      walkAll p.namespaces p.accumulator ⟨p.accumulator, notes'⟩ = .ok () pass := by
    intro hvalid notes
    have hi := validate_eq_ok_iff.1 hvalid
    obtain ⟨p, notes', hprep, -, -, hreg⟩ := exists_prepare resolver hi notes
    obtain ⟨pass, hwalk, -, -⟩ := exists_walkAll p.namespaces hi hreg notes'
    exact ⟨p, notes', pass, hprep, hwalk⟩
  rcases simplify_cases resolver folders with
    ⟨hd, hu, hval, out, heq⟩ | ⟨hd, p, hval, heq⟩ | ⟨hd, hu, p, q, hval, heq⟩
  · rw [heq, hval]
    exact ⟨by simp [hd, hu], by simp [hd], by simp [hu], by simp, hengine⟩
  · rw [heq, hval]
    exact ⟨by simp [hd], by simp [hd], by simp [hd], by simp, hengine⟩
  · rw [heq, hval]
    exact ⟨by simp [hu], by simp [hd], by simp [hd, hu], by simp, hengine⟩

end RootFold
