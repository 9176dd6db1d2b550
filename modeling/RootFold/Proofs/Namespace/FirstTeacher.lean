import RootFold.Proofs.Namespace.Teaching

/-!
# `RootFold.Proofs.Namespace.FirstTeacher` — the namespace of a directory in closed form

Registration goes up from a file, directory and namespace side by side, and stores what it meets unless something is
stored there. Nothing of this is visible in the end. A cache knows about a directory what the first folder teaches that
teaches about it at all, where a folder teaches with the answer that its file got when it was asked about first.

## Contents
- **One folder.** `Folder.find?_taught_iff`, `Folder.find?_taught_eq_none_iff`.
- **All folders.** `lookup_after_eq_none_iff` and `lookup_after_empty`; `lookup_iff_first_teacher`, for any folders and
  any resolvers.
-/

namespace RootFold

variable {resolver : Resolver} {f : Folder} {asked : List Path} {d m : Path}

/-! ## One folder -/

namespace Folder

/-- About a directory a folder has no row if it teaches nothing. -/
theorem find?_taught_eq_none_iff
    (hself : f.wantsNamespacePrefix = true → firstSpelled asked f.representative = f.representative) :
    (f.taught resolver asked).find? (·.1 == d) = none ↔ ∀ m, ¬ f.Teaches resolver d m := by
  rw [List.find?_eq_none]
  constructor
  · intro h m hteaches
    obtain ⟨row, hrow, hd, -⟩ := (exists_taught_iff hself).2 hteaches
    exact h row hrow hd
  · intro h row hrow hd
    exact h row.2 ((exists_taught_iff hself).1 ⟨row, hrow, hd, BEq.rfl⟩)

/-- **The first row** of a folder about a directory is what it teaches, since all its rows about it agree. -/
theorem find?_taught_iff
    (hself : f.wantsNamespacePrefix = true → firstSpelled asked f.representative = f.representative) :
    (∃ row, (f.taught resolver asked).find? (·.1 == d) = some row ∧ (row.2 == m) = true) ↔ f.Teaches resolver d m := by
  constructor
  · rintro ⟨row, hrow, hm⟩
    have hd : (row.1 == d) = true := List.find?_some (p := fun row : Path × Path => row.1 == d) hrow
    exact (exists_taught_iff hself).1 ⟨row, List.mem_of_find?_eq_some hrow, hd, hm⟩
  · intro hteaches
    cases hrow : (f.taught resolver asked).find? (·.1 == d) with
    | none => exact absurd hteaches ((find?_taught_eq_none_iff hself).1 hrow m)
    | some row =>
      have hd : (row.1 == d) = true := List.find?_some (p := fun row : Path × Path => row.1 == d) hrow
      have hfirst : f.Teaches resolver d row.2 :=
        (exists_taught_iff hself).1 ⟨row, List.mem_of_find?_eq_some hrow, hd, BEq.rfl⟩
      exact ⟨row, rfl, Path.beq_iff.2 (hfirst.unique hteaches)⟩

end Folder

/-! ## All folders -/

namespace NamespaceCache

/-- What is known about a directory is the first row about it of the first folder that has one. -/
theorem lookup_after_eq_findSome? (requests : List Request) (d : Path) :
    (after requests).lookup d =
      ((registeredBy requests).findSome? fun f =>
        (f.taught (after requests).recalled []).find? (·.1 == d)).map (·.2) := by
  rw [← List.find?_flatMap]
  exact lookup_after requests d

/-- **Nothing is known** about what no folder teaches about. -/
theorem lookup_after_eq_none_iff (requests : List Request) (d : Path) :
    (after requests).lookup d = none ↔
      ∀ f ∈ registeredBy requests, ∀ m, ¬ f.Teaches (after requests).recalled d m := by
  rw [lookup_after_eq_findSome?, Option.map_eq_none_iff, List.findSome?_eq_none_iff]
  apply forall₂_congr
  intro f hf
  exact Folder.find?_taught_eq_none_iff fun _ => firstSpelled_nil f.representative

/-- The empty path is no directory that a folder could teach about. -/
theorem lookup_after_empty (requests : List Request) : (after requests).lookup .empty = none := by
  rw [lookup_after_eq_none_iff]
  intro f hf m hteaches
  exact hteaches.nonempty Path.components_empty

/-- **The namespace of a directory is that of its first teacher.** Whatever a new cache is asked to do, and with whatever
    resolvers (one and the same, if a list of folders is registered), a file has in the end the answer that the first
    question about it got. About a directory the cache knows what the first of the registered folders teaches that
    teaches about it, with these answers: some ordinary names lead from the directory to that of the folder's file and
    from the namespace to the answer. If there is none, nothing is known. About the empty path nothing is ever known: it
    is not a directory, so no file's directory is it and it is above none. -/
theorem lookup_iff_first_teacher (requests : List Request) (d : Path) :
    let c := after requests
    (∀ file, c.answer? file = firstAnswer? (questionsOf requests) file) ∧
    (∀ m, (∃ m', c.lookup d = some m' ∧ (m' == m) = true) ↔
      ∃ before f later, registeredBy requests = before ++ f :: later ∧ f.Teaches c.recalled d m ∧
        ∀ g ∈ before, ∀ m', ¬ g.Teaches c.recalled d m') ∧
    (c.lookup d = none ↔ ∀ f ∈ registeredBy requests, ∀ m, ¬ f.Teaches c.recalled d m) ∧
    c.lookup .empty = none := by
  intro c
  have hself : ∀ f : Folder, f.wantsNamespacePrefix = true → firstSpelled [] f.representative = f.representative :=
    fun f _ => firstSpelled_nil f.representative
  refine ⟨answer?_after requests, fun m => ?_, lookup_after_eq_none_iff requests d, lookup_after_empty requests⟩
  · constructor
    · rintro ⟨m', hm', hsame⟩
      rw [lookup_after_eq_findSome?] at hm'
      obtain ⟨row, hrow, rfl⟩ := Option.map_eq_some_iff.1 hm'
      obtain ⟨before, f, later, hlist, hfirst, hbefore⟩ := List.findSome?_eq_some_iff.1 hrow
      refine ⟨before, f, later, hlist, (Folder.find?_taught_iff (hself f)).1 ⟨row, hfirst, hsame⟩, ?_⟩
      intro g hg
      exact (Folder.find?_taught_eq_none_iff (hself g)).1 (hbefore g hg)
    · rintro ⟨before, f, later, hlist, hteaches, hbefore⟩
      obtain ⟨row, hfirst, hsame⟩ := (Folder.find?_taught_iff (hself f)).2 hteaches
      refine ⟨row.2, ?_, hsame⟩
      rw [lookup_after_eq_findSome?]
      apply Option.map_eq_some_iff.2
      refine ⟨row, List.findSome?_eq_some_iff.2 ⟨before, f, later, hlist, hfirst, ?_⟩, rfl⟩
      intro g hg
      exact (Folder.find?_taught_eq_none_iff (hself g)).2 (hbefore g hg)

end NamespaceCache

end RootFold
