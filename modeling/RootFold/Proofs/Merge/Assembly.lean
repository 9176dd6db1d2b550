import RootFold.Simplify
import Mathlib.Data.List.Sort

/-!
# `RootFold.Proofs.Merge.Assembly` — the order of a result

A result is sorted by path and then by kind, and the sort is stable: what was in order before keeps its order. So
the excluded folders and the others can be taken out of a result as they went in, and sorting a result again
changes nothing.

## Contents
- **The order.** `Simplified.folderLe_iff` with its two laws.
- **Stability.** `exists_mergeSort_cons`; `mergeSort_eq_insertionSort`, `filter_mergeSort`.
- **Results.** `sortByPath_sorted`, `Simplified.sortByPath_folders`, `Simplified.excluded_assemble`,
  `Simplified.merged_assemble_eq` and `Simplified.merged_assemble`.
-/

namespace RootFold

variable {folders excluded : List Folder} {acc : Accumulator} {a b c : Folder}

/-! ## The order -/

namespace Simplified

theorem folderLe_iff : folderLe a b = true ↔
    a.path < b.path ∨ (a.path == b.path) = true ∧ a.kind.rank ≤ b.kind.rank := by
  simp [folderLe]

theorem folderLe_trans (a b c : Folder) (hab : folderLe a b = true) (hbc : folderLe b c = true) :
    folderLe a c = true := by
  rw [folderLe_iff] at *
  rcases hab with hab | ⟨hab, hk⟩ <;> rcases hbc with hbc | ⟨hbc, hk'⟩
  · exact .inl (Path.lt_trans hab hbc)
  · exact .inl (Path.lt_of_lt_of_beq hab hbc)
  · exact .inl (Path.lt_of_beq_of_lt hab hbc)
  · exact .inr ⟨BEq.trans hab hbc, Nat.le_trans hk hk'⟩

theorem folderLe_total (a b : Folder) : (folderLe a b || folderLe b a) = true := by
  rw [Bool.or_eq_true, folderLe_iff, folderLe_iff]
  rcases Path.lt_or_beq_or_gt a.path b.path with h | h | h
  · exact .inl (.inl h)
  · rcases Nat.le_total a.kind.rank b.kind.rank with hk | hk
    · exact .inl (.inr ⟨h, hk⟩)
    · exact .inr (.inr ⟨BEq.symm h, hk⟩)
  · exact .inr (.inl h)

theorem path_le_of_folderLe (h : folderLe a b = true) : a.path.le b.path = true := by
  rw [Path.le_iff]
  exact (folderLe_iff.1 h).imp_right And.left

end Simplified

/-! ## Stability -/

/-- An element goes behind all that it may not precede. -/
theorem orderedInsert_append {α : Type} {le : α → α → Bool} {a : α} {before after : List α}
    (hbefore : ∀ b ∈ before, le a b = false) (hafter : ∀ b ∈ after, le a b = true) :
    (before ++ after).orderedInsert (fun x y => le x y = true) a = before ++ a :: after := by
  induction before with
  | nil =>
    cases after with
    | nil => rfl
    | cons b rest => rw [List.nil_append, List.nil_append, List.orderedInsert_cons, if_pos (hafter b (by simp))]
  | cons b rest ih =>
    have hb : ¬ le a b = true := by simp [hbefore b (by simp)]
    rw [List.cons_append, List.orderedInsert_cons, if_neg hb, ih fun c hc => hbefore c (by simp [hc]), List.cons_append]

section Stability

variable {α : Type} {le : α → α → Bool} (trans : ∀ a b c, le a b = true → le b c = true → le a c = true)
  (total : ∀ a b, (le a b || le b a) = true)
include trans total

/-- **One more element** goes between those that it may not precede and the others. -/
theorem exists_mergeSort_cons (a : α) (rest : List α) : ∃ before after, rest.mergeSort le = before ++ after ∧
    (a :: rest).mergeSort le = before ++ a :: after ∧ (∀ b ∈ before, le a b = false) ∧ ∀ b ∈ after, le a b = true := by
  obtain ⟨before, after, hall, hrest, hbefore⟩ := List.mergeSort_cons trans total a rest
  have hsorted : (before ++ a :: after).Pairwise fun a b => le a b = true :=
    hall ▸ List.pairwise_mergeSort trans total (a :: rest)
  have hafter : ∀ b ∈ after, le a b = true := (List.pairwise_cons.1 (List.pairwise_append.1 hsorted).2.1).1
  exact ⟨before, after, hrest, hall, fun b hb => by simpa using hbefore b hb, hafter⟩

/-- **A stable sort is an insertion sort,** also where different elements are equally good. -/
theorem mergeSort_eq_insertionSort (l : List α) : l.mergeSort le = l.insertionSort fun a b => le a b = true := by
  induction l with
  | nil => rw [List.mergeSort_nil, List.insertionSort_nil]
  | cons a rest ih =>
    obtain ⟨before, after, hrest, hall, hbefore, hafter⟩ := exists_mergeSort_cons trans total a rest
    rw [List.insertionSort_cons, ← ih, hrest, hall]
    exact (orderedInsert_append hbefore hafter).symm

/-- **A stable sort keeps the order of any part:** what is taken out of a sorted list is the sorted part. -/
theorem filter_mergeSort (p : α → Bool) (l : List α) : (l.mergeSort le).filter p = (l.filter p).mergeSort le := by
  induction l with
  | nil => rw [List.filter_nil, List.mergeSort_nil, List.filter_nil]
  | cons a rest ih =>
    obtain ⟨before, after, hrest, hall, hbefore, hafter⟩ := exists_mergeSort_cons trans total a rest
    rw [hrest, List.filter_append] at ih
    rw [hall, List.filter_append]
    cases hp : p a with
    | false => rw [List.filter_cons_of_neg (by simp [hp]), List.filter_cons_of_neg (by simp [hp]), ih]
    | true =>
      rw [List.filter_cons_of_pos hp, List.filter_cons_of_pos hp, mergeSort_eq_insertionSort trans total,
        List.insertionSort_cons, ← mergeSort_eq_insertionSort trans total, ← ih]
      exact (orderedInsert_append (fun b hb => hbefore b (List.mem_filter.1 hb).1)
        fun b hb => hafter b (List.mem_filter.1 hb).1).symm

end Stability

/-! ## Results -/

theorem sortByPath_sorted (folders : List Folder) :
    (sortByPath folders).Pairwise fun a b => a.path.le b.path = true :=
  List.pairwise_mergeSort (fun a b c => @Path.le_trans a.path b.path c.path) (fun a b => Path.le_total a.path b.path)
    folders

/-- Excluded folders are in order as soon as their paths are. -/
theorem excluded_sorted (folders : List Folder) :
    ((sortByPath folders).filter (·.isExcluded)).Pairwise fun a b => Simplified.folderLe a b = true := by
  refine ((sortByPath_sorted folders).filter _).imp_of_mem fun {a b} ha hb hab => ?_
  have hkind : ∀ f ∈ (sortByPath folders).filter (·.isExcluded), f.kind = .exclude := fun f hf =>
    eq_of_beq (List.mem_filter.1 hf).2
  rw [Simplified.folderLe_iff, hkind a ha, hkind b hb]
  exact (Path.le_iff.1 hab).imp_right fun he => ⟨he, Nat.le_refl _⟩

namespace Simplified

theorem folders_sorted (excluded : List Folder) (acc : Accumulator) :
    (assemble excluded acc).folders.Pairwise fun a b => folderLe a b = true :=
  List.pairwise_mergeSort folderLe_trans folderLe_total _

/-- A result is sorted by path already. -/
theorem sortByPath_folders (excluded : List Folder) (acc : Accumulator) :
    sortByPath (assemble excluded acc).folders = (assemble excluded acc).folders :=
  List.mergeSort_of_pairwise ((folders_sorted excluded acc).imp path_le_of_folderLe)

/-- **The excluded folders of a result** are those that were put in. -/
theorem excluded_assemble (hsorted : excluded.Pairwise fun a b => folderLe a b = true)
    (hex : ∀ f ∈ excluded, f.isExcluded = true) (hacc : ∀ f ∈ acc.values, f.isExcluded = false) :
    (assemble excluded acc).excluded = excluded := by
  have hparts : (excluded ++ acc.values).filter (·.isExcluded) = excluded := by
    have hnone : acc.values.filter (·.isExcluded) = [] := List.filter_eq_nil_iff.2 fun f hf => by simp [hacc f hf]
    rw [List.filter_append, List.filter_eq_self.2 hex, hnone, List.append_nil]
  rw [Simplified.excluded, assemble, filter_mergeSort folderLe_trans folderLe_total, hparts,
    List.mergeSort_of_pairwise hsorted]

/-- **The other folders of a result** are sorted as if they were alone. -/
theorem merged_assemble_eq (hex : ∀ f ∈ excluded, f.isExcluded = true) (hacc : ∀ f ∈ acc.values, f.isExcluded = false) :
    (assemble excluded acc).merged = (assemble [] acc).folders := by
  have hnone : excluded.filter (!·.isExcluded) = [] := List.filter_eq_nil_iff.2 fun f hf => by simp [hex f hf]
  have hall : acc.values.filter (!·.isExcluded) = acc.values := List.filter_eq_self.2 fun f hf => by simp [hacc f hf]
  rw [merged, assemble, filter_mergeSort folderLe_trans folderLe_total, List.filter_append, hnone, hall]
  rfl

/-- They are those that were held. -/
theorem merged_assemble (hsorted : acc.values.Pairwise fun a b => folderLe a b = true)
    (hex : ∀ f ∈ excluded, f.isExcluded = true) (hacc : ∀ f ∈ acc.values, f.isExcluded = false) :
    (assemble excluded acc).merged = acc.values := by
  rw [merged_assemble_eq hex hacc, assemble, List.nil_append]
  exact List.mergeSort_of_pairwise hsorted

end Simplified

end RootFold
