import RootFold.Proofs.Ancestry.Closure
import RootFold.Proofs.Path.Grove

/-!
# `RootFold.Proofs.Ancestry.Spelling` — how a graph spells its directories

A directory is in the graph as it was first spelled, and any path at it or below may have been the first. Nothing else
about the insertions matters: of all inserted paths, each followed by its climb, the first that is the same place gives
the spelling. Climbs stay in their trees, so in a grove a graph has the directories, letter for letter, of the graph of
the paths that are in the grove.

## Contents
- **Steps.** `node?_addNode`; `ClosedBut` and `node?_linkUp`; `Linked.node?_insert`.
- **Graphs of lists.** `node?_ofList`, `mem_nodes_ofList_filter`.
-/

namespace RootFold.AncestryGraph

variable {g : AncestryGraph} {p q c child : Path}

/-! ## Steps -/

/-- What is there already keeps its spelling. -/
theorem node?_or_of_contains (h : g.contains q = true) (later : Option Path) : (g.node? q).or later = g.node? q := by
  obtain ⟨n, hn⟩ := exists_node? h
  rw [hn, Option.some_or]

theorem node?_addNode : (g.addNode p).node? q = (g.node? q).or ([p].find? (· == q)) := by
  unfold addNode
  split
  · next hold =>
    by_cases hpq : (p == q) = true
    · rw [node?_or_of_contains (contains_congr hpq ▸ hold)]
    · rw [List.find?_singleton, if_neg hpq, Option.or_none]
  · rw [node?, node?, List.find?_append]

@[simp] theorem node?_addEdge : (g.addEdge p c).node? q = g.node? q := by rw [node?, node?, nodes_addEdge]

/-- **What holds during a climb:** with each of its directories the graph has the one above, but for the directory that
    the climb has reached. -/
def ClosedBut (g : AncestryGraph) (child : Path) : Prop :=
  ∀ p m : Path, g.contains p = true → ¬ (p == child) = true → p.LiesIn m → g.contains m = true

/-- With a directory that is not as far down the graph has all above. -/
theorem ClosedBut.contains_of_covers (h : g.ClosedBut child) {p : Path} (hp : g.contains p = true)
    (hlen : p.components.length < child.components.length) (hq : q.Covers p) : g.contains q = true := by
  rcases Path.covers_iff_parentDir?.1 hq with he | ⟨m, hm, hqm⟩
  · rwa [contains_congr he]
  · have hlies : p.LiesIn m := .of_parentDir? hm
    have hmlen := hlies.length_eq
    have hother : ¬ (p == child) = true := fun he => by
      rw [Path.beq_iff.1 he] at hlen
      exact Nat.lt_irrefl _ hlen
    exact ClosedBut.contains_of_covers h (h p m hp hother hlies) (by omega) hqm
termination_by p.components.length
decreasing_by exact Path.length_components_of_parentDir? hm

/-- One round of the climb. -/
theorem ClosedBut.step {parent : Path} (h : g.ClosedBut child) (hlies : child.LiesIn parent) :
    ((g.addNode parent).addEdge parent child).ClosedBut parent := by
  intro p m hp hother hpm
  rw [contains_addEdge, contains_addNode, Bool.or_eq_true] at hp ⊢
  have hold : g.contains p = true := hp.resolve_left fun he => hother (BEq.symm he)
  by_cases hpc : (p == child) = true
  · exact .inl (hlies.beq ((Path.LiesIn.congr hpc BEq.rfl).1 hpm))
  · exact .inr (h p m hold hpc hpm)

/-- **The climb from a directory** adds what is above it, as the climb spells it. -/
theorem node?_linkUp {g : AncestryGraph} {child : Path} (h : g.ClosedBut child) (q : Path) :
    (g.linkUp child).node? q = (g.node? q).or (child.ancestors.find? (· == q)) := by
  rw [linkUp]
  split
  · next hpar => rw [Path.ancestors_of_parentDir?_eq_none hpar, List.find?_nil, Option.or_none]
  · next parent hpar =>
    have hlies : child.LiesIn parent := .of_parentDir? hpar
    rw [Path.ancestors_of_parentDir?_eq_some hpar]
    simp only
    split
    · next hold =>
      -- the climb stops early: everything further up is there already
      rw [node?_addEdge, addNode_of_contains hold]
      cases hfind : (parent :: parent.ancestors).find? (· == q) with
      | none => rw [Option.or_none]
      | some a =>
        have haq : (a == q) = true := List.find?_some (p := fun a : Path => a == q) hfind
        have hcov : q.Covers parent := by
          rcases List.mem_cons.1 (List.mem_of_find?_eq_some hfind) with rfl | ha
          · exact .of_beq (BEq.symm haq)
          · exact .inr ⟨a, ha, BEq.symm haq⟩
        have hlen := hlies.length_eq
        rw [node?_or_of_contains (h.contains_of_covers hold (by omega) hcov)]
    · rw [node?_linkUp (h.step hlies), node?_addEdge, node?_addNode, Option.or_assoc, ← List.find?_append,
        List.singleton_append]
termination_by child.components.length
decreasing_by exact Path.length_components_of_parentDir? ‹_›

/-- A linked graph with one more directory is closed but for that one. -/
theorem Linked.closedBut_addNode (hg : g.Linked) (p : Path) : (g.addNode p).ClosedBut p := by
  intro c m hc hother hlies
  rw [contains_addNode, Bool.or_eq_true] at hc ⊢
  have hold : g.contains c = true := hc.resolve_left fun he => hother (BEq.symm he)
  exact .inr (hg.contains_of_covers hold hlies.covers)

/-- **An insertion** adds the directory and all above it, each as it is spelled there unless it is in the graph. -/
theorem Linked.node?_insert (hg : g.Linked) (p q : Path) :
    (g.insert p).node? q = (g.node? q).or ((p :: p.ancestors).find? (· == q)) := by
  rw [AncestryGraph.insert, node?_linkUp (hg.closedBut_addNode p), node?_addNode, Option.or_assoc, ← List.find?_append,
    List.singleton_append]

/-! ## Graphs of lists -/

private theorem node?_foldl_insert (hg : g.Linked) (paths : List Path) (q : Path) :
    (paths.foldl insert g).node? q = (g.node? q).or ((paths.flatMap fun p => p :: p.ancestors).find? (· == q)) := by
  induction paths generalizing g with
  | nil => rw [List.foldl_nil, List.flatMap_nil, List.find?_nil, Option.or_none]
  | cons p rest ih =>
    rw [List.foldl_cons, ih (hg.insert p).1, hg.node?_insert, Option.or_assoc, ← List.find?_append, List.flatMap_cons]

/-- **The spelling of a directory:** of the listed paths, each followed by its climb, the first one that is the
    directory. -/
theorem node?_ofList (paths : List Path) (q : Path) :
    (ofList paths).node? q = (paths.flatMap fun p => p :: p.ancestors).find? (· == q) := by
  rw [ofList, node?_foldl_insert linked_empty]
  rfl

/-- **In a grove** a graph has the directories of the graph of the paths that are in the grove. -/
theorem mem_nodes_ofList_filter (paths : List Path) (grove : Grove) :
    q ∈ (ofList (paths.filter grove.holds)).nodes ↔ q ∈ (ofList paths).nodes ∧ grove.holds q = true := by
  cases hq : grove.holds q with
  | true =>
    have hclimbs : ∀ p ∈ paths, ∀ a ∈ p :: p.ancestors, grove.holds a = grove.holds p := by
      intro p _ a ha
      rcases List.mem_cons.1 ha with rfl | ha
      · rfl
      · exact grove.holds_of_covers (.inr ⟨a, ha, BEq.rfl⟩)
    rw [(linked_ofList _).toSound.mem_nodes_iff_node?, (linked_ofList _).toSound.mem_nodes_iff_node?, node?_ofList,
      node?_ofList, ← grove.find?_flatMap_filter hclimbs hq, and_iff_left rfl]
  | false =>
    refine iff_of_false (fun hmem => ?_) fun h => Bool.false_ne_true h.2
    obtain ⟨p, hp, hqp⟩ := contains_ofList.1 (contains_of_mem hmem)
    have hheld := (List.mem_filter.1 hp).2
    rw [← grove.holds_of_covers hqp, hq] at hheld
    exact Bool.false_ne_true hheld

end RootFold.AncestryGraph
