import RootFold.Simplify
import RootFold.Proofs.Merge.Collapse

/-!
# `RootFold.Proofs.Merge.Validity` — the check accepts independent folders and no others

The check goes through the paths twice: once for a path that repeats an earlier one, once for a path with another
one above it. What it answers does not depend on the order of the folders, only which of several faults it names.

## Contents
- **Two tests.** `firstRepeated?_eq_none_iff`, `firstNested?_eq_none_iff`.
- **Declarations.** `Distinct` and `Unnested`; together they are `Independent`.
- **The check.** `validate_cases`, `validate_eq_ok_iff`, and for sorted folders `declaredFolders_sortByPath_perm` and
  `independent_sortByPath_iff`.
- **By counting.** `NoneBelow` is `Unnested` by counts of steps, `unnested_iff_noneBelow`; `validate_counts_steps`.
-/

namespace RootFold

variable {declared folders : List Folder} {f : Folder}

/-! ## Two tests -/

theorem firstRepeated?_eq_none_iff {seen paths : List Path} :
    firstRepeated? seen paths = none ↔
      paths.Pairwise (fun a b => ¬ (a == b) = true) ∧ ∀ p ∈ paths, seen.contains p = false := by
  induction paths generalizing seen with
  | nil => simp [firstRepeated?]
  | cons p rest ih =>
    rw [firstRepeated?]
    cases hp : seen.contains p with
    | true =>
      rw [if_pos rfl]
      constructor
      · intro h
        exact absurd h (by simp)
      · rintro ⟨-, h⟩
        exact absurd (h p (by simp)) (by simp [hp])
    | false =>
      rw [if_neg (by simp), ih, List.pairwise_cons, List.forall_mem_cons]
      have hseen : (∀ q ∈ rest, (p :: seen).contains q = false) ↔
          (∀ q ∈ rest, ¬ (p == q) = true) ∧ ∀ q ∈ rest, seen.contains q = false := by
        rw [← forall₂_and]
        refine forall₂_congr fun q _ => ?_
        rw [List.contains_cons, Bool.or_eq_false_iff, BEq.comm (a := q), Bool.not_eq_true]
      rw [hseen]
      constructor
      · rintro ⟨hne, hp', hrest⟩
        exact ⟨⟨hp', hne⟩, hp, hrest⟩
      · rintro ⟨⟨hp', hne⟩, -, hrest⟩
        exact ⟨hne, hp', hrest⟩

theorem firstNested?_eq_none_iff {paths : List Path} :
    firstNested? paths = none ↔ ∀ p ∈ paths, ∀ a ∈ p.ancestors, ∀ q ∈ paths, ¬ (q == a) = true := by
  rw [firstNested?, List.findSome?_eq_none_iff]
  refine forall₂_congr fun p _ => ?_
  rw [Option.map_eq_none_iff, List.find?_eq_none]
  refine forall₂_congr fun a _ => ?_
  rw [List.contains_eq_any_beq, List.any_eq_true]
  constructor
  · intro h q hq hqa
    exact h ⟨q, hq, BEq.symm hqa⟩
  · rintro h ⟨q, hq, haq⟩
    exact h q hq (BEq.symm haq)

/-! ## Declarations -/

/-- No two folders are declared at one path. -/
def Distinct (declared : List Folder) : Prop := declared.Pairwise fun f g => ¬ (f.path == g.path) = true

/-- No folder's path is among the directories above another's. -/
def Unnested (declared : List Folder) : Prop :=
  ∀ f ∈ declared, ∀ g ∈ declared, ∀ a ∈ g.path.ancestors, ¬ (f.path == a) = true

/-- **Independent folders** have different paths, none of them above another. -/
theorem independent_iff : Independent declared ↔ Distinct declared ∧ Unnested declared := by
  constructor
  · intro hi
    refine ⟨hi.imp fun ⟨h, _⟩ he => h (.of_beq he), fun f hf g hg a ha hfa => ?_⟩
    obtain rfl := hi.eq_of_covers hf hg (.inr ⟨a, ha, hfa⟩)
    have hlt := Path.length_of_mem_ancestors ha
    rw [Path.beq_iff.1 hfa] at hlt
    exact Nat.lt_irrefl _ hlt
  · rintro ⟨hd, hu⟩
    refine hd.imp_of_mem fun {f g} hf hg hne => ⟨?_, ?_⟩
    · rintro (he | ⟨a, ha, hfa⟩)
      · exact hne he
      · exact hu f hf g hg a ha hfa
    · rintro (he | ⟨a, ha, hga⟩)
      · exact hne (BEq.symm he)
      · exact hu g hg f hf a ha hga

theorem Distinct.perm {l l' : List Folder} (hp : l.Perm l') : Distinct l ↔ Distinct l' :=
  hp.pairwise_iff fun h he => h (BEq.symm he)

theorem Unnested.perm {l l' : List Folder} (hp : l.Perm l') : Unnested l ↔ Unnested l' := by
  simp only [Unnested, hp.mem_iff]

/-! ## The check -/

/-- **What the check finds.** A repeated path is found before a nested one. -/
theorem validate_cases (folders : List Folder) :
    (Distinct (declaredFolders folders) ∧ Unnested (declaredFolders folders) ∧ validate folders = .ok ()) ∨
    (¬ Distinct (declaredFolders folders) ∧ ∃ p, validate folders = .error (.duplicateFolder p)) ∨
    (Distinct (declaredFolders folders) ∧ ¬ Unnested (declaredFolders folders) ∧
      ∃ p q, validate folders = .error (.inconsistent (.nestedDeclaration p q))) := by
  have hdistinct : firstRepeated? [] (declaredPaths folders) = none ↔ Distinct (declaredFolders folders) := by
    rw [firstRepeated?_eq_none_iff, declaredPaths, List.pairwise_map]
    exact and_iff_left (by simp)
  have hnested : firstNested? (declaredPaths folders) = none ↔ Unnested (declaredFolders folders) := by
    rw [firstNested?_eq_none_iff, declaredPaths]
    simp only [List.forall_mem_map]
    constructor
    · intro h f hf g hg a ha
      exact h g hg a ha f hf
    · intro h g hg a ha f hf
      exact h f hf g hg a ha
  rw [validate]
  cases hrep : firstRepeated? [] (declaredPaths folders) with
  | some p => exact .inr (.inl ⟨fun hd => absurd (hdistinct.2 hd) (by simp [hrep]), p, rfl⟩)
  | none =>
    cases hnest : firstNested? (declaredPaths folders) with
    | some found =>
      have hnot : ¬ Unnested (declaredFolders folders) := fun hu => absurd (hnested.2 hu) (by simp [hnest])
      exact .inr (.inr ⟨hdistinct.1 hrep, hnot, _, _, rfl⟩)
    | none => exact .inl ⟨hdistinct.1 hrep, hnested.1 hnest, rfl⟩

theorem validate_eq_ok_iff : validate folders = .ok () ↔ Independent (declaredFolders folders) := by
  rw [independent_iff]
  rcases validate_cases folders with ⟨hd, hu, heq⟩ | ⟨hd, p, heq⟩ | ⟨-, hu, p, q, heq⟩
  · exact ⟨fun _ => ⟨hd, hu⟩, fun _ => heq⟩
  · exact ⟨fun h => absurd (heq.symm.trans h) (by simp), fun h => absurd h.1 hd⟩
  · exact ⟨fun h => absurd (heq.symm.trans h) (by simp), fun h => absurd h.2 hu⟩

/-- Sorting keeps the folders that take part in merging. -/
theorem declaredFolders_sortByPath_perm (folders : List Folder) :
    (declaredFolders (sortByPath folders)).Perm (declaredFolders folders) :=
  (List.mergeSort_perm folders _).filter _

theorem independent_sortByPath_iff :
    Independent (declaredFolders (sortByPath folders)) ↔ Independent (declaredFolders folders) := by
  have hperm := declaredFolders_sortByPath_perm folders
  rw [independent_iff, independent_iff, Distinct.perm hperm, Unnested.perm hperm]

/-! ## By counting -/

/-- **No folder lies below another** by the count of steps between them. The empty path is no directory, so nothing lies
    below it. -/
def NoneBelow (declared : List Folder) : Prop :=
  ∀ f ∈ declared, f.path.isEmpty = false → ∀ g ∈ declared, f.path.nestingDepth? g.path = none

/-- **Climbing and counting agree:** a directory is met on the way up from a path when steps are left over after it. -/
theorem unnested_iff_noneBelow : Unnested declared ↔ NoneBelow declared := by
  have hclimb : ∀ f g : Folder, (∀ a ∈ g.path.ancestors, ¬ (f.path == a) = true) ↔
      (f.path.isEmpty = false → f.path.nestingDepth? g.path = none) := by
    intro f g
    rw [Option.eq_none_iff_forall_ne_some, ← not_exists, ← Path.isAbove_iff_nestingDepth?, ← not_and,
      ← Path.exists_mem_ancestors_iff]
    simp only [not_exists, not_and]
  unfold Unnested NoneBelow
  constructor
  · intro h f hf hne g hg
    exact (hclimb f g).1 (h f hf g hg) hne
  · intro h f hf g hg
    exact (hclimb f g).2 fun hne => h f hf hne g hg

/-- **The check counts steps.** It accepts the folders, in whatever spelling, when no two of those that take part have
    the same path and none lies below another one, the empty path left aside; it names a repeated path if there is one,
    and a nested one otherwise. -/
theorem validate_counts_steps (folders : List Folder) :
    (validate folders = .ok () ↔ Distinct (declaredFolders folders) ∧ NoneBelow (declaredFolders folders)) ∧
    ((∃ p, validate folders = .error (.duplicateFolder p)) ↔ ¬ Distinct (declaredFolders folders)) ∧
    ((∃ cause, validate folders = .error (.inconsistent cause)) ↔
      Distinct (declaredFolders folders) ∧ ¬ NoneBelow (declaredFolders folders)) := by
  rw [← unnested_iff_noneBelow]
  rcases validate_cases folders with ⟨hd, hu, heq⟩ | ⟨hd, p, heq⟩ | ⟨hd, hu, p, q, heq⟩
  · simp [heq, hd, hu]
  · simp [heq, hd]
  · simp [heq, hd, hu]

/-- A folder at the empty path and one at a single name. -/
def emptyAndName : List Folder := [.ofKind .source (.ofText ""), .ofKind .source (.ofText "a")]

/-- **The empty path is an exception:** every relative path is some steps below it, but no climb gets there. -/
theorem validate_accepts_empty_path : ¬ (validate emptyAndName = .ok () ↔
    Distinct (declaredFolders emptyAndName) ∧ ∀ f ∈ declaredFolders emptyAndName, ∀ g ∈ declaredFolders emptyAndName,
      f.path.nestingDepth? g.path = none) := by
  have hdistinct : Distinct (declaredFolders emptyAndName) := by
    unfold Distinct
    decide
  have hbelow : NoneBelow (declaredFolders emptyAndName) := by
    unfold NoneBelow
    decide
  have haccepted : validate emptyAndName = .ok () :=
    validate_eq_ok_iff.2 (independent_iff.2 ⟨hdistinct, unnested_iff_noneBelow.2 hbelow⟩)
  intro h
  obtain ⟨-, hnone⟩ := h.1 haccepted
  exact absurd hnone (by decide)

end RootFold
