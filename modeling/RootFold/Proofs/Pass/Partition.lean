import RootFold.Proofs.Merge.Outcome

/-!
# `RootFold.Proofs.Pass.Partition` — the folders that are left partition the declared ones

Whatever the resolver answers, a pass loses no folder, counts none twice and never mixes kinds or flags: each
declared folder is at or under exactly one of those that are left, and each of these is what was declared there,
taken together.
-/

namespace RootFold

variable {resolver : Resolver} {folders : List Folder}

/-- **Partition.** Each declared folder is covered by exactly one folder of the result, no folder of the result
    covers another, each covers a declared one, and each has the kind, the flag and all the members of those it
    covers, and no other members. -/
theorem simplify_partitions {out : Simplified} (h : simplify resolver folders = .ok out) :
    (∀ f ∈ declaredFolders folders, ∃! o, o ∈ out.merged ∧ o.path.Covers f.path) ∧
    (out.merged.Pairwise fun o o' => ¬ o.path.Covers o'.path ∧ ¬ o'.path.Covers o.path) ∧
    (∀ o ∈ out.merged, ∃ f ∈ declaredFolders folders, o.path.Covers f.path) ∧
    (∀ o ∈ out.merged, ∀ f ∈ declaredFolders folders, o.path.Covers f.path →
      f.kind = o.kind ∧ f.wantsNamespacePrefix = o.wantsNamespacePrefix) ∧
    (∀ o ∈ out.merged, ∀ x, o.members.contains x = true ↔
      ∃ f ∈ declaredFolders folders, o.path.Covers f.path ∧ f.members.contains x = true) := by
  have hcond := condensed_of_simplify h
  have hi := independent_of_simplify h
  refine ⟨fun f hf => hcond.existsUnique_covers hi hf, hcond.independent, fun o ho => ?_, fun o ho => ?_,
    fun o ho => ?_⟩
  · exact (hcond.topmost o ho).occupied
  · exact (hcond.represents o ho).agrees
  · exact (hcond.represents o ho).members

/-- Two folders side by side, one of them with a member. -/
def sideBySide : List Folder :=
  [.ofKind .source (.ofText "app/a"),
    { Folder.ofKind .source (.ofText "app/b") with members := PathSet.empty.insert (.ofText "app/b/m") }]

theorem simplify_partitions_sideBySide :
    ∃ out, simplify .directory sideBySide = .ok out ∧
      ∃! o, o ∈ out.merged ∧ o.path.Covers (.ofText "app/a") := by
  have hi : Independent (declaredFolders sideBySide) := independent_of_not_prefix (by decide)
  obtain ⟨acc, heq, -⟩ := exists_simplify .directory hi
  exact ⟨_, heq, (simplify_partitions heq).1 (.ofKind .source (.ofText "app/a")) List.mem_cons_self⟩

end RootFold
