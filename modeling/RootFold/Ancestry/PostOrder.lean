import RootFold.Ancestry.Graph

/-!
# `RootFold.Ancestry.PostOrder` — every directory after all that is inside it

A depth-first walk with an explicit stack, so that deep trees need no deep recursion. A directory that comes up
for the first time is marked and stays on the stack while the directories inside it are put on top; when it comes
up again it is finished and taken off. Children are taken in the order in which their edges were added.

## Contents
- **The walk.** `AncestryGraph.unfold`, on a stack and the lists of marked and finished directories.
- **The order.** `AncestryGraph.postOrder`.
-/

namespace RootFold.AncestryGraph

/-- The directories that the walk has not marked. -/
def unmarked (g : AncestryGraph) (marked : List Path) : List Path := g.nodes.filter (!marked.contains ·)

/-- A stronger test lets fewer elements through, if it rejects one that the weaker test accepts. -/
theorem length_filter_lt {α : Type} {p q : α → Bool} {l : List α} (himp : ∀ x, q x = true → p x = true)
    (hex : ∃ x ∈ l, p x = true ∧ q x = false) : (l.filter q).length < (l.filter p).length := by
  induction l with
  | nil => simp at hex
  | cons a rest ih =>
    have hle : (rest.filter q).length ≤ (rest.filter p).length := by
      rw [← List.countP_eq_length_filter, ← List.countP_eq_length_filter]
      exact List.countP_mono_left fun x _ => himp x
    obtain ⟨x, hx, hp, hq⟩ := hex
    rcases List.mem_cons.1 hx with rfl | hx
    · simp [hp, hq]
      omega
    · have hlt := ih ⟨x, hx, hp, hq⟩
      cases hqa : q a with
      | true => simp [hqa, himp a hqa, hlt]
      | false =>
        cases hpa : p a with
        | true => simp [hqa, hpa]; omega
        | false => simp [hqa, hpa, hlt]

/-- Marking a directory of the graph leaves fewer to mark. -/
theorem length_unmarked_lt {g : AncestryGraph} {node : Path} {marked : List Path}
    (hin : g.contains node = true) (hnew : marked.contains node = false) :
    (g.unmarked (node :: marked)).length < (g.unmarked marked).length := by
  obtain ⟨n, hn, he⟩ : ∃ n ∈ g.nodes, (n == node) = true := by simpa [contains] using hin
  refine length_filter_lt (fun x hx => ?_) ⟨n, hn, ?_, ?_⟩
  · simp only [List.contains_cons, Bool.not_or, Bool.and_eq_true] at hx
    exact hx.2
  · rw [List.contains_congr he, hnew]; rfl
  · simp [List.contains_cons, he]

/-- **The rest of a walk:** the directories that are still to be finished, in order. The stack has its top in
    front. -/
def unfold (g : AncestryGraph) (stack marked finished : List Path) : List Path :=
  match stack with
  | [] => []
  | node :: rest =>
    if _h : g.contains node = true ∧ marked.contains node = false then
      let inside := (g.childrenByAge node).filter fun child => !(node :: marked).contains child
      unfold g (inside ++ node :: rest) (node :: marked) finished
    else if finished.contains node then unfold g rest marked finished
    else node :: unfold g rest marked (node :: finished)
termination_by ((g.unmarked marked).length, stack.length)
decreasing_by
  · exact .left _ _ (length_unmarked_lt _h.1 _h.2)
  · exact .right _ (Nat.lt_succ_self _)
  · exact .right _ (Nat.lt_succ_self _)

/-- **A directory and all below it,** each after what is inside it. A directory that is not in the graph has
    nothing. -/
def postOrder (g : AncestryGraph) (root : Path) : List Path :=
  match g.node? root with
  | some node => g.unfold [node] [] []
  | none => []

end RootFold.AncestryGraph
