import RootFold.Ancestry.PostOrder
import RootFold.Proofs.Ancestry.Closure

/-!
# `RootFold.Proofs.Ancestry.Traversal` — the explicit stack lists a tree block by block

The walk with a stack and two lists of known directories is equal to a plain recursion: the block of a directory is
the blocks of those inside it, in the order in which their edges came, and then the directory itself. The reason is
a frame argument. While one block is listed nothing outside the directory's tree is marked or finished, and a
block depends on nothing else.

## Contents
- **Blocks.** `block`, its equation `Linked.block_eq`, and `Linked.inside_induction` on the directories of a graph.
- **Forests.** `Lists` says what it means that a block is listed; `lists_forest`, from what is known of each block.
- **Trees.** `Linked.lists_block`, `Linked.postOrder_eq`.
-/

namespace RootFold.AncestryGraph

variable {g : AncestryGraph} {p q c : Path}

/-! ## Blocks -/

/-- The directories of the graph that have more steps than one. -/
def deeper (g : AncestryGraph) (p : Path) : List Path :=
  g.nodes.filter fun q => decide (p.components.length < q.components.length)

theorem length_deeper_lt (hc : g.contains c = true) (h : p.components.length < c.components.length) :
    (g.deeper c).length < (g.deeper p).length := by
  obtain ⟨n, hn, hnc⟩ := contains_iff.1 hc
  have hlen : n.components.length = c.components.length := by rw [Path.beq_iff.1 hnc]
  refine length_filter_lt (fun q hq => ?_) ⟨n, hn, by simpa [hlen] using h, by simp [hlen]⟩
  rw [decide_eq_true_eq] at hq ⊢
  omega

/-- **The block of a directory:** the blocks of those directly inside it and then itself. In a linked graph all that
    edges lead to are deeper, and none is left out. -/
def block (g : AncestryGraph) (p : Path) : List Path :=
  let inside := (g.childrenByAge p).filter fun c =>
    g.contains c && decide (p.components.length < c.components.length)
  inside.attach.flatMap (fun c => block g c.1) ++ [p]
termination_by (g.deeper p).length
decreasing_by
  obtain ⟨hc, hlt⟩ := Bool.and_eq_true_iff.1 (List.mem_filter.1 c.2).2
  exact length_deeper_lt hc (of_decide_eq_true hlt)

theorem Linked.block_eq (hg : g.Linked) (p : Path) :
    g.block p = (g.childrenByAge p).flatMap g.block ++ [p] := by
  have hall : (g.childrenByAge p).filter
      (fun c => g.contains c && decide (p.components.length < c.components.length)) = g.childrenByAge p := by
    refine List.filter_eq_self.2 fun c hc => ?_
    obtain ⟨hmem, hlies⟩ := hg.mem_childrenByAge.1 hc
    have hlen := hlies.length_eq
    exact Bool.and_eq_true_iff.2 ⟨contains_of_mem hmem, decide_eq_true (by omega)⟩
  rw [block]
  simp only [hall, List.flatMap_def, List.attach_map_val]

/-- **Induction from the inside out:** a property of every directory that has it when all directly inside it do. -/
theorem Linked.inside_induction (hg : g.Linked) {P : Path → Prop}
    (step : ∀ p ∈ g.nodes, (∀ c ∈ g.childrenByAge p, P c) → P p) : ∀ p ∈ g.nodes, P p := by
  intro p hp
  refine step p hp fun c hc => ?_
  obtain ⟨hmem, hlies⟩ := hg.mem_childrenByAge.1 hc
  exact Linked.inside_induction hg step c hmem
termination_by p => (g.deeper p).length
decreasing_by exact length_deeper_lt (contains_of_mem hmem) (by have := hlies.length_eq; omega)

/-- A block holds the directories that the directory covers. -/
theorem Linked.mem_block (hg : g.Linked) : ∀ p ∈ g.nodes, ∀ q, q ∈ g.block p ↔ q ∈ g.nodes ∧ p.Covers q := by
  refine hg.inside_induction fun p hp ih q => ?_
  rw [hg.block_eq, List.mem_append, List.mem_flatMap, List.mem_singleton]
  constructor
  · rintro (⟨c, hc, hq⟩ | rfl)
    · obtain ⟨hqmem, hcq⟩ := (ih c hc q).1 hq
      exact ⟨hqmem, (hg.mem_childrenByAge.1 hc).2.covers.trans hcq⟩
    · exact ⟨hp, .refl q⟩
  · rintro ⟨hq, hpq⟩
    rcases hg.eq_or_child_covers (contains_of_mem hq) hpq with he | ⟨c, hc, hcq⟩
    · exact .inr (hg.toSound.eq_of_beq hp hq he).symm
    · have hchild : c ∈ g.childrenByAge p := hg.mem_childrenByAge.2 hc
      exact .inl ⟨c, hchild, (ih c hchild q).2 ⟨hq, hcq⟩⟩

/-! ## Forests -/

/-- **What it means that a stack's front is listed:** it gives its block and goes on with the rest, having marked
    and finished the directories it covers and no others. -/
def Lists (g : AncestryGraph) (front listed : List Path) : Prop :=
  ∀ rest marked finished : List Path,
    (∀ q ∈ g.nodes, (∃ c ∈ front, c.Covers q) → marked.contains q = false ∧ finished.contains q = false) →
    ∃ marked' finished' : List Path,
      g.unfold (front ++ rest) marked finished = listed ++ g.unfold rest marked' finished' ∧
      ∀ q ∈ g.nodes,
        (marked'.contains q = true ↔ marked.contains q = true ∨ ∃ c ∈ front, c.Covers q) ∧
        (finished'.contains q = true ↔ finished.contains q = true ∨ ∃ c ∈ front, c.Covers q)

/-- **Directories inside one** are listed one block after the other, since their trees have nothing in common. -/
theorem lists_forest {cs : List Path} (hlies : ∀ c ∈ cs, c.LiesIn p)
    (hne : cs.Pairwise fun a b => ¬ (a == b) = true) (hcs : ∀ c ∈ cs, g.Lists [c] (g.block c)) :
    g.Lists cs (cs.flatMap g.block) := by
  induction cs with
  | nil =>
    intro rest marked finished _
    exact ⟨marked, finished, rfl, fun q _ => by simp⟩
  | cons c others ih =>
    obtain ⟨hfirst, hothers⟩ := List.pairwise_cons.1 hne
    intro rest marked finished hfresh
    obtain ⟨m₁, f₁, heq₁, hknown₁⟩ := hcs c (by simp) (others ++ rest) marked finished
      fun q hq hcov => hfresh q hq (by simpa using .inl (by simpa using hcov))
    -- the first block marks nothing in the trees that are still to come
    have hapart : ∀ q, (∃ d ∈ others, d.Covers q) → ¬ c.Covers q := by
      rintro q ⟨d, hd, hdq⟩ hcq
      exact hfirst d hd (Path.LiesIn.beq_of_covers (hlies c (by simp)) (hlies d (by simp [hd])) hcq hdq)
    have hfresh₁ : ∀ q ∈ g.nodes, (∃ d ∈ others, d.Covers q) →
        m₁.contains q = false ∧ f₁.contains q = false := by
      intro q hq hcov
      obtain ⟨d, hd, hdq⟩ := hcov
      have hold := hfresh q hq ⟨d, by simp [hd], hdq⟩
      have hnot := hapart q ⟨d, hd, hdq⟩
      obtain ⟨hm, hf⟩ := hknown₁ q hq
      rw [← Bool.not_eq_true, ← Bool.not_eq_true, hm, hf, hold.1, hold.2]
      simp [hnot]
    obtain ⟨m₂, f₂, heq₂, hknown₂⟩ := ih (fun d hd => hlies d (by simp [hd])) hothers
      (fun d hd => hcs d (by simp [hd])) rest m₁ f₁ hfresh₁
    refine ⟨m₂, f₂, ?_, fun q hq => ?_⟩
    · rw [List.flatMap_cons, List.append_assoc, ← heq₂, ← heq₁]
      rfl
    · obtain ⟨hm₁, hf₁⟩ := hknown₁ q hq
      obtain ⟨hm₂, hf₂⟩ := hknown₂ q hq
      rw [hm₂, hf₂, hm₁, hf₁]
      simp [or_assoc]

/-! ## Trees -/

/-- **Every directory is listed as its block.** -/
theorem Linked.lists_block (hg : g.Linked) : ∀ p ∈ g.nodes, g.Lists [p] (g.block p) := by
  refine hg.inside_induction fun p hp ih => ?_
  intro rest marked finished hfresh
  have hlies : ∀ c ∈ g.childrenByAge p, c.LiesIn p := fun c hc => (hg.mem_childrenByAge.1 hc).2
  have hnew : ∀ q ∈ g.nodes, p.Covers q → marked.contains q = false ∧ finished.contains q = false :=
    fun q hq hpq => hfresh q hq ⟨p, by simp, hpq⟩
  have hnewInside : ∀ q ∈ g.nodes, (∃ c ∈ g.childrenByAge p, c.Covers q) →
      (p :: marked).contains q = false ∧ finished.contains q = false := by
    rintro q hq ⟨c, hc, hcq⟩
    obtain ⟨hm, hf⟩ := hnew q hq ((hlies c hc).covers.trans hcq)
    have hqp : (q == p) = false := by
      rw [← Bool.not_eq_true]
      exact fun he => (hlies c hc).not_covers ((Path.Covers.congr BEq.rfl he).1 hcq)
    exact ⟨by simp only [List.contains_cons, hqp, hm, Bool.or_false], hf⟩
  -- the first visit puts all directories inside on the stack, none of them being marked
  have hinside : (g.childrenByAge p).filter (fun c => !(p :: marked).contains c) = g.childrenByAge p := by
    refine List.filter_eq_self.2 fun c hc => ?_
    rw [(hnewInside c (hg.mem_childrenByAge.1 hc).1 ⟨c, hc, .refl c⟩).1]
    rfl
  obtain ⟨m₁, f₁, heq, hknown⟩ :=
    lists_forest hlies (hg.childrenByAge_distinct p) ih (p :: rest) (p :: marked) finished hnewInside
  have hnone : ¬ ∃ c ∈ g.childrenByAge p, c.Covers p := fun ⟨c, hc, hcp⟩ => (hlies c hc).not_covers hcp
  -- the second visit finds `p` marked, and not finished by anything inside it
  obtain ⟨hmp, hfp⟩ := hknown p hp
  have hmarked : m₁.contains p = true := hmp.2 (.inl (by simp))
  have hunfinished : f₁.contains p = false := by
    rw [← Bool.not_eq_true, hfp, (hnew p hp (.refl p)).2]
    simp [hnone]
  refine ⟨m₁, p :: f₁, ?_, fun q hq => ?_⟩
  · rw [List.singleton_append, unfold, dif_pos ⟨contains_of_mem hp, (hnew p hp (.refl p)).1⟩]
    simp only [hinside]
    rw [heq, unfold, dif_neg (by simp [hmarked]), if_neg (by simp [hunfinished]), hg.block_eq, List.append_assoc,
      List.singleton_append]
  · obtain ⟨hm, hf⟩ := hknown q hq
    have hcov : p.Covers q ↔ (q == p) = true ∨ ∃ c ∈ g.childrenByAge p, c.Covers q := by
      have hblock := (hg.mem_block p hp q).symm
      rw [hg.block_eq, List.mem_append, List.mem_flatMap, List.mem_singleton] at hblock
      constructor
      · intro h
        rcases hblock.1 ⟨hq, h⟩ with ⟨c, hc, hqc⟩ | rfl
        · exact .inr ⟨c, hc, ((hg.mem_block c (hg.mem_childrenByAge.1 hc).1 q).1 hqc).2⟩
        · exact .inl BEq.rfl
      · rintro (he | ⟨c, hc, hcq⟩)
        · exact .of_beq (BEq.symm he)
        · exact (hlies c hc).covers.trans hcq
    rw [hm, List.contains_cons, List.contains_cons, Bool.or_eq_true, Bool.or_eq_true, hf]
    simp only [List.mem_singleton, exists_eq_left, hcov]
    constructor
    · rw [or_comm (a := (q == p) = true), or_assoc]
    · rw [or_left_comm]

/-- **The walk lists the block of its root.** -/
theorem Linked.postOrder_eq (hg : g.Linked) {root n : Path} (h : g.node? root = some n) :
    g.postOrder root = g.block n := by
  obtain ⟨m, f, heq, -⟩ := hg.lists_block n (node?_mem h).1 [] [] [] (by simp)
  rw [List.append_nil] at heq
  rw [postOrder, h]
  show g.unfold [n] [] [] = g.block n
  rw [heq, unfold, List.append_nil]

end RootFold.AncestryGraph
