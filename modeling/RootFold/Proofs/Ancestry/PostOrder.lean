import RootFold.Proofs.Ancestry.Traversal

/-!
# `RootFold.Proofs.Ancestry.PostOrder` — what a directory's block says about the order of the walk

A block is a list of the tree below a directory, every directory with its own block right before it. So nothing comes
after a directory that is inside it, and the block of every directory in the list is found in one piece. Children take
turns by the age of their edges. An edge that was added keeps its place, whatever is inserted later.

## Contents
- **Blocks.** `Linked.postOrder_eq_flatMap`, `Linked.mem_postOrder`, `Linked.postOrder_insideFirst`,
  `Linked.postOrder_infix`.
- **Positions.** What stands before a directory: `Linked.exists_blocks_before`, `Linked.mem_before_of_liesIn`.
- **Ages.** `edges_prefix_insert`, `childrenByAge_prefix`.
-/

namespace RootFold.AncestryGraph

variable {g : AncestryGraph} {p q c n m root : Path} {before later : List Path}

/-! ## Blocks -/

theorem Linked.postOrder_eq_block (hg : g.Linked) (hn : n ∈ g.nodes) : g.postOrder n = g.block n :=
  hg.postOrder_eq (hg.toSound.mem_nodes_iff_node?.1 hn)

/-- A root that is spelled differently is walked as the graph spells it. -/
theorem postOrder_congr (h : (p == q) = true) : g.postOrder p = g.postOrder q := by
  have hnode : g.node? p = g.node? q := find?_place_congr id h g.nodes
  unfold postOrder
  rw [hnode]

/-- **The blocks of the children,** by the age of their edges, and then the directory itself. -/
theorem Linked.postOrder_eq_flatMap (hg : g.Linked) (hn : n ∈ g.nodes) :
    g.postOrder n = (g.childrenByAge n).flatMap g.postOrder ++ [n] := by
  have hblocks : (g.childrenByAge n).flatMap g.postOrder = (g.childrenByAge n).flatMap g.block := by
    apply List.flatMap_congr
    intro c hc
    exact hg.postOrder_eq_block (hg.mem_childrenByAge.1 hc).1
  rw [hg.postOrder_eq_block hn, hg.block_eq, hblocks]

/-- The walk lists what the root covers. -/
theorem Linked.mem_postOrder (hg : g.Linked) (hroot : g.contains root = true) :
    q ∈ g.postOrder root ↔ q ∈ g.nodes ∧ root.Covers q := by
  obtain ⟨n, hn, hnroot⟩ := contains_iff.1 hroot
  rw [← postOrder_congr hnroot, hg.postOrder_eq_block hn, hg.mem_block n hn, Path.Covers.congr hnroot BEq.rfl]

/-- **Nothing comes after a directory that is inside it.** -/
theorem Linked.block_insideFirst (hg : g.Linked) :
    ∀ p ∈ g.nodes, (g.block p).Pairwise fun a b => ¬ a.Covers b := by
  refine hg.inside_induction fun p hp ih => ?_
  have hlies : ∀ c ∈ g.childrenByAge p, c.LiesIn p := fun c hc => (hg.mem_childrenByAge.1 hc).2
  have hcov : ∀ c ∈ g.childrenByAge p, ∀ x ∈ g.block c, c.Covers x := fun c hc x hx =>
    ((hg.mem_block c (hg.mem_childrenByAge.1 hc).1 x).1 hx).2
  rw [hg.block_eq, List.pairwise_append]
  refine ⟨?_, List.pairwise_singleton _ _, ?_⟩
  · rw [List.pairwise_flatMap]
    refine ⟨ih, (hg.childrenByAge_distinct p).imp_of_mem fun {c d} hc hd hcd x hx y hy hxy => ?_⟩
    -- what two children cover is apart
    exact hcd (Path.LiesIn.beq_of_covers (hlies c hc) (hlies d hd) ((hcov c hc x hx).trans hxy) (hcov d hd y hy))
  · intro x hx y hy hxy
    obtain ⟨c, hc, hxc⟩ := List.mem_flatMap.1 hx
    rw [List.mem_singleton.1 hy] at hxy
    exact (hlies c hc).not_covers ((hcov c hc x hxc).trans hxy)

theorem Linked.postOrder_insideFirst (hg : g.Linked) (hroot : g.contains root = true) :
    (g.postOrder root).Pairwise fun a b => ¬ a.Covers b := by
  obtain ⟨n, hn, hnroot⟩ := contains_iff.1 hroot
  rw [← postOrder_congr hnroot, hg.postOrder_eq_block hn]
  exact hg.block_insideFirst n hn

/-- Every block is in one piece in the block of a directory above. -/
theorem Linked.block_infix (hg : g.Linked) : ∀ p ∈ g.nodes, ∀ n ∈ g.block p, g.block n <:+: g.block p := by
  refine hg.inside_induction fun p hp ih n hn => ?_
  rw [hg.block_eq, List.mem_append, List.mem_flatMap, List.mem_singleton] at hn
  rcases hn with ⟨c, hc, hnc⟩ | rfl
  · have hpart : g.block c <:+: g.block p := by
      rw [hg.block_eq p]
      exact (List.infix_flatMap_of_mem hc g.block).trans (List.prefix_append _ _).isInfix
    exact (ih c hc n hnc).trans hpart
  · exact List.infix_refl _

theorem Linked.postOrder_infix (hg : g.Linked) (hroot : g.contains root = true) (hn : n ∈ g.postOrder root) :
    g.postOrder n <:+: g.postOrder root := by
  obtain ⟨r, hr, hrroot⟩ := contains_iff.1 hroot
  have hmem := ((hg.mem_postOrder hroot).1 hn).1
  rw [← postOrder_congr hrroot, hg.postOrder_eq_block hr] at hn ⊢
  rw [hg.postOrder_eq_block hmem]
  exact hg.block_infix r hr n hn

/-! ## Positions -/

/-- **Right before a directory** stand the blocks of those inside it. -/
theorem Linked.exists_blocks_before (hg : g.Linked) (hroot : g.contains root = true)
    (h : g.postOrder root = before ++ n :: later) :
    ∃ front, before = front ++ (g.childrenByAge n).flatMap g.postOrder := by
  have hn : n ∈ g.postOrder root := by
    rw [h]
    exact List.mem_append_right _ List.mem_cons_self
  obtain ⟨front, back, hpiece⟩ := hg.postOrder_infix hroot hn
  rw [hg.postOrder_eq_flatMap ((hg.mem_postOrder hroot).1 hn).1, ← List.append_assoc, List.append_assoc _ [n],
    List.singleton_append] at hpiece
  have hcuts : before ++ n :: later = front ++ (g.childrenByAge n).flatMap g.postOrder ++ n :: back :=
    h.symm.trans hpiece.symm
  -- the directory is there once, so both cuts are at the same place
  have hfirst := hg.postOrder_insideFirst hroot
  rw [h, List.pairwise_append, List.pairwise_cons] at hfirst
  obtain ⟨-, ⟨hlater, -⟩, hbefore⟩ := hfirst
  have hnotBefore : n ∉ before := fun hmem => hbefore n hmem n List.mem_cons_self (.refl n)
  have hnotLater : n ∉ later := fun hmem => hlater n hmem (.refl n)
  exact ⟨front, ((List.append_cons_inj_of_notMem hnotBefore hnotLater).1 hcuts).1⟩

/-- What is directly inside a directory stands before it. -/
theorem Linked.mem_before_of_liesIn (hg : g.Linked) (hroot : g.contains root = true)
    (h : g.postOrder root = before ++ n :: later) (hc : c ∈ g.nodes) (hlies : c.LiesIn n) : c ∈ before := by
  obtain ⟨front, rfl⟩ := hg.exists_blocks_before hroot h
  have hchild : c ∈ g.childrenByAge n := hg.mem_childrenByAge.2 ⟨hc, hlies⟩
  apply List.mem_append_right
  refine List.mem_flatMap.2 ⟨c, hchild, (hg.mem_postOrder (contains_of_mem hc)).2 ⟨hc, .refl c⟩⟩

/-- What stands before a directory does not cover it. -/
theorem Linked.not_covers_of_before (hg : g.Linked) (hroot : g.contains root = true)
    (h : g.postOrder root = before ++ n :: later) (hm : m ∈ before) : ¬ m.Covers n := by
  have hfirst := hg.postOrder_insideFirst hroot
  rw [h, List.pairwise_append] at hfirst
  exact hfirst.2.2 m hm n List.mem_cons_self

/-! ## Ages -/

theorem edges_prefix_addEdge : g.edges <+: (g.addEdge p c).edges := by
  unfold addEdge
  simp only
  split
  · exact List.prefix_refl _
  · exact List.prefix_append _ _

theorem edges_prefix_linkUp (g : AncestryGraph) (child : Path) : g.edges <+: (g.linkUp child).edges := by
  rw [linkUp]
  split
  · exact List.prefix_refl _
  · next parent hpar =>
    have hlinked : g.edges <+: ((g.addNode parent).addEdge parent child).edges := by
      rw [← edges_addNode (g := g) (p := parent)]
      exact edges_prefix_addEdge
    simp only
    split
    · exact hlinked
    · exact hlinked.trans (edges_prefix_linkUp _ parent)
termination_by child.components.length
decreasing_by exact Path.length_components_of_parentDir? ‹_›

/-- **An insertion** adds edges behind those that are there. -/
theorem edges_prefix_insert (g : AncestryGraph) (p : Path) : g.edges <+: (g.insert p).edges := by
  unfold AncestryGraph.insert
  rw [← edges_addNode (g := g) (p := p)]
  exact edges_prefix_linkUp _ p

theorem edges_prefix_ofList (paths more : List Path) : (ofList paths).edges <+: (ofList (paths ++ more)).edges := by
  unfold ofList
  rw [List.foldl_append]
  generalize paths.foldl insert empty = g
  induction more generalizing g with
  | nil => exact List.prefix_refl _
  | cons p rest ih => exact (edges_prefix_insert g p).trans (ih _)

/-- **Children keep their turns:** those that come with later insertions come behind. -/
theorem childrenByAge_prefix (paths more : List Path) (p : Path) :
    (ofList paths).childrenByAge p <+: (ofList (paths ++ more)).childrenByAge p :=
  ((edges_prefix_ofList paths more).filter _).map _

end RootFold.AncestryGraph
