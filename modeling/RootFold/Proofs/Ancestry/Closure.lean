import RootFold.Ancestry.Graph
import RootFold.Proofs.Path.Covering
import RootFold.Proofs.Path.Map

/-!
# `RootFold.Proofs.Ancestry.Closure` — the graph holds the inserted directories and all above them

Insertion stops climbing at the first directory that is already known. That is enough because of an invariant:
every directory of a graph is linked to the one above it. While a new directory is being linked there is one
exception, the directory that the climb has reached; `Sound` is what holds all the time and `Linked` what holds
between insertions.

## Contents
- **Invariants.** `Sound`, `LinkedAt`, `Linked`.
- **Steps.** `Sound.addNode`, `Sound.addEdge`, `Linked.contains_of_covers`, `linked_linkUp`, `Linked.insert`.
- **Graphs of lists.** `linked_ofList`, `contains_ofList`.
- **Reading.** `Linked.mem_childrenByAge`, `Linked.mem_children`, `Linked.children_sorted`, `Linked.mem_roots`.
-/

namespace RootFold.AncestryGraph

variable {g : AncestryGraph} {p q c m : Path}

/-! ## Invariants -/

/-- **What holds of a graph at any time:** every directory is there once, and every edge leads from a directory to
    one directly inside it, at most one edge to each. -/
structure Sound (g : AncestryGraph) : Prop where
  distinct : g.nodes.Pairwise fun a b => ¬ (a == b) = true
  edge_nodes : ∀ e ∈ g.edges, e.1 ∈ g.nodes ∧ e.2 ∈ g.nodes
  edge_liesIn : ∀ e ∈ g.edges, e.2.LiesIn e.1
  edges_distinct : g.edges.Pairwise fun a b => ¬ (a.2 == b.2) = true

/-- A directory is linked when an edge leads to it, if there is a directory above it at all. -/
def LinkedAt (g : AncestryGraph) (c : Path) : Prop := ∀ m, c.LiesIn m → ∃ e ∈ g.edges, (e.2 == c) = true

/-- **What holds between insertions:** every directory of the graph is linked. -/
structure Linked (g : AncestryGraph) : Prop extends Sound g where
  linked : ∀ c ∈ g.nodes, g.LinkedAt c

theorem contains_iff : g.contains q = true ↔ ∃ n ∈ g.nodes, (n == q) = true := List.any_eq_true

theorem contains_of_mem (h : q ∈ g.nodes) : g.contains q = true := contains_iff.2 ⟨q, h, BEq.rfl⟩

theorem contains_congr (h : (p == q) = true) : g.contains p = g.contains q := by
  rw [Bool.eq_iff_iff, contains_iff, contains_iff]
  constructor
  · rintro ⟨n, hn, hnp⟩
    exact ⟨n, hn, BEq.trans hnp h⟩
  · rintro ⟨n, hn, hnq⟩
    exact ⟨n, hn, BEq.trans hnq (BEq.symm h)⟩

theorem LinkedAt.congr (h : (p == q) = true) (hp : g.LinkedAt p) : g.LinkedAt q := by
  intro m hm
  obtain ⟨e, he, hep⟩ := hp m ((Path.LiesIn.congr h BEq.rfl).2 hm)
  exact ⟨e, he, BEq.trans hep h⟩

/-- A directory has one spelling in the graph. -/
theorem Sound.eq_of_beq (hg : g.Sound) (hp : p ∈ g.nodes) (hq : q ∈ g.nodes) (h : (p == q) = true) : p = q :=
  eq_of_distinct hg.distinct hp hq h

theorem node?_mem {n : Path} (h : g.node? q = some n) : n ∈ g.nodes ∧ (n == q) = true := by
  have hn := List.find?_some (p := fun n : Path => n == q) h
  exact ⟨List.mem_of_find?_eq_some h, hn⟩

theorem exists_node? (h : g.contains q = true) : ∃ n, g.node? q = some n := by
  obtain ⟨n, hn, hnq⟩ := contains_iff.1 h
  cases hfind : g.node? q with
  | some n' => exact ⟨n', rfl⟩
  | none => exact absurd hnq (List.find?_eq_none.1 hfind n hn)

/-- A directory of the graph is found as it is spelled there. -/
theorem Sound.mem_nodes_iff_node? (hg : g.Sound) : q ∈ g.nodes ↔ g.node? q = some q := by
  constructor
  · intro hq
    obtain ⟨n, hn⟩ := exists_node? (contains_of_mem hq)
    obtain ⟨hmem, hnq⟩ := node?_mem hn
    rw [hn, hg.eq_of_beq hmem hq hnq]
  · intro h
    exact (node?_mem h).1

/-! ## Steps -/

theorem addNode_of_contains (h : g.contains p = true) : g.addNode p = g := if_pos h

theorem contains_addNode : (g.addNode p).contains q = ((p == q) || g.contains q) := by
  unfold addNode
  split
  · next h =>
    cases hpq : p == q with
    | false => rfl
    | true => rw [← contains_congr hpq, h]; rfl
  · simp [contains, Bool.or_comm]

theorem Sound.addNode (hg : g.Sound) (p : Path) : (g.addNode p).Sound := by
  unfold AncestryGraph.addNode
  split
  · exact hg
  · next hnew =>
    refine ⟨?_, fun e he => ?_, hg.edge_liesIn, hg.edges_distinct⟩
    · refine List.pairwise_append.2 ⟨hg.distinct, List.pairwise_singleton _ _, fun a ha b hb hab => hnew ?_⟩
      rw [List.mem_singleton.1 hb] at hab
      exact contains_iff.2 ⟨a, ha, hab⟩
    · obtain ⟨h₁, h₂⟩ := hg.edge_nodes e he
      exact ⟨List.mem_append_left _ h₁, List.mem_append_left _ h₂⟩

@[simp] theorem nodes_addEdge : (g.addEdge p c).nodes = g.nodes := by
  unfold addEdge
  simp only
  split <;> rfl

@[simp] theorem edges_addNode : (g.addNode p).edges = g.edges := by
  unfold addNode
  split <;> rfl

theorem contains_addEdge : (g.addEdge p c).contains q = g.contains q := by rw [contains, contains, nodes_addEdge]

/-- **An edge is added to a sound graph,** and what it leads to is linked. -/
theorem Sound.addEdge (hg : g.Sound) (hp : g.contains p = true) (hc : g.contains c = true) (h : c.LiesIn p) :
    (g.addEdge p c).Sound ∧ (g.addEdge p c).LinkedAt c ∧ ∀ e ∈ g.edges, e ∈ (g.addEdge p c).edges := by
  obtain ⟨np, hnp⟩ := exists_node? hp
  obtain ⟨nc, hnc⟩ := exists_node? hc
  obtain ⟨hpmem, hpeq⟩ := node?_mem hnp
  obtain ⟨hcmem, hceq⟩ := node?_mem hnc
  have hlies : nc.LiesIn np := (Path.LiesIn.congr hceq hpeq).2 h
  have hadd : g.addEdge p c = if g.edges.any (fun e => e.1 == np && e.2 == nc) then g
      else { g with edges := g.edges ++ [(np, nc)] } := by
    simp only [AncestryGraph.addEdge, hnp, hnc, Option.getD_some]
  rw [hadd]
  split
  · next hold =>
    obtain ⟨e, he, heq⟩ := List.any_eq_true.1 hold
    refine ⟨hg, fun m _ => ⟨e, he, BEq.trans (Bool.and_eq_true_iff.1 heq).2 hceq⟩, fun e he => he⟩
  · next hnew =>
    refine ⟨⟨hg.distinct, fun e he => ?_, fun e he => ?_, ?_⟩, fun m _ => ⟨(np, nc), by simp, hceq⟩,
      fun e he => List.mem_append_left _ he⟩
    · rcases List.mem_append.1 he with he | he
      · exact hg.edge_nodes e he
      · obtain rfl := List.mem_singleton.1 he
        exact ⟨hpmem, hcmem⟩
    · rcases List.mem_append.1 he with he | he
      · exact hg.edge_liesIn e he
      · obtain rfl := List.mem_singleton.1 he
        exact hlies
    · refine List.pairwise_append.2 ⟨hg.edges_distinct, List.pairwise_singleton _ _, fun e he e' he' heq => hnew ?_⟩
      obtain rfl := List.mem_singleton.1 he'
      -- an edge to the same directory comes from the same directory, so it is the one that was looked for
      have hfrom : (e.1 == np) = true :=
        Path.LiesIn.beq ((Path.LiesIn.congr heq BEq.rfl).1 (hg.edge_liesIn e he)) hlies
      exact List.any_eq_true.2 ⟨e, he, Bool.and_eq_true_iff.2 ⟨hfrom, heq⟩⟩

/-- As far as directories are linked, everything above them is in the graph. -/
theorem Sound.contains_of_covers (hg : g.Sound) {n : Nat} {p : Path}
    (hlink : ∀ c ∈ g.nodes, c.components.length ≤ n → g.LinkedAt c) (hp : g.contains p = true)
    (hlen : p.components.length ≤ n) (h : q.Covers p) : g.contains q = true := by
  -- the climb from `p`: every directory that it passes is shorter, so it is linked as well
  rcases Path.covers_iff_parentDir?.1 h with he | ⟨m, hm, hqm⟩
  · rwa [contains_congr he]
  · have hlies : p.LiesIn m := .of_parentDir? hm
    obtain ⟨np, hnp, hnpp⟩ := contains_iff.1 hp
    have hnlen : np.components.length ≤ n := by rwa [Path.beq_iff.1 hnpp]
    obtain ⟨e, he, hep⟩ := LinkedAt.congr hnpp (hlink np hnp hnlen) m hlies
    have hfrom : (e.1 == m) = true :=
      Path.LiesIn.beq ((Path.LiesIn.congr hep BEq.rfl).1 (hg.edge_liesIn e he)) hlies
    have hcm : g.contains m = true := contains_iff.2 ⟨e.1, (hg.edge_nodes e he).1, hfrom⟩
    have hmlen := hlies.length_eq
    exact Sound.contains_of_covers hg hlink hcm (by omega) hqm
termination_by p.components.length
decreasing_by exact Path.length_components_of_parentDir? hm

/-- **With a directory** a linked graph has all above it. -/
theorem Linked.contains_of_covers (hg : g.Linked) (hp : g.contains p = true) (h : q.Covers p) : g.contains q = true :=
  hg.toSound.contains_of_covers (fun n hn _ => hg.linked n hn) hp (Nat.le_refl _) h

/-- **Linking up** a directory, the only one that may not be linked yet, links everything. The climb may stop at a
    known directory, since that one is linked up to its root. -/
theorem linked_linkUp {g : AncestryGraph} {child : Path} (hg : g.Sound) (hchild : g.contains child = true)
    (hlink : ∀ c ∈ g.nodes, ¬ (c == child) = true → g.LinkedAt c) :
    (g.linkUp child).Linked ∧
      ∀ q, (g.linkUp child).contains q = true ↔ g.contains q = true ∨ q.Covers child := by
  have hknown : ∀ {q : Path}, (q == child) = true → g.contains q = true := fun h => by
    rwa [contains_congr h]
  -- one round of the climb; the number of steps of `child` goes down with it
  rw [linkUp]
  split
  · next hpar =>
    -- a top directory needs no link
    refine ⟨⟨hg, fun c hc => ?_⟩, fun q => ⟨.inl, ?_⟩⟩
    · by_cases hcc : (c == child) = true
      · intro m hm
        obtain ⟨k, hk, -⟩ := (Path.LiesIn.congr hcc BEq.rfl).1 hm
        rw [hpar] at hk
        exact absurd hk (by simp)
      · exact hlink c hc hcc
    · rintro (h | h)
      · exact h
      · rcases Path.covers_iff_parentDir?.1 h with he | ⟨m, hm, -⟩
        · exact hknown he
        · rw [hpar] at hm
          exact absurd hm (by simp)
  · next parent hpar =>
    have hlies : child.LiesIn parent := .of_parentDir? hpar
    have hhas : (g.addNode parent).contains parent = true := by simp [contains_addNode]
    have hhas' : (g.addNode parent).contains child = true := by simp [contains_addNode, hchild]
    obtain ⟨hsound, hat, hmono⟩ := (hg.addNode parent).addEdge hhas hhas' hlies
    have hkeep : ∀ c ∈ g.nodes, ((g.addNode parent).addEdge parent child).LinkedAt c := by
      intro c hc
      by_cases hcc : (c == child) = true
      · exact hat.congr (BEq.symm hcc)
      · intro m hm
        obtain ⟨e, he, hec⟩ := hlink c hc hcc m hm
        exact ⟨e, hmono e (by rwa [edges_addNode]), hec⟩
    simp only
    split
    · next hold =>
      rw [addNode_of_contains hold] at hsound hkeep ⊢
      refine ⟨⟨hsound, fun c hc => hkeep c (by rwa [nodes_addEdge] at hc)⟩, fun q => ?_⟩
      rw [contains_addEdge]
      refine ⟨.inl, fun h => h.elim id fun hcov => ?_⟩
      rcases Path.covers_iff_parentDir?.1 hcov with he | ⟨m, hm, hqm⟩
      · exact hknown he
      · obtain rfl : parent = m := Option.some.inj (hpar.symm.trans hm)
        -- directories as short as the known one are not the child, so they are all linked
        refine hg.contains_of_covers (fun c hc hlen => hlink c hc fun hcc => ?_) hold (Nat.le_refl _) hqm
        have := hlies.length_eq
        rw [Path.beq_iff.1 hcc] at hlen
        omega
    · next hnew =>
      -- now `parent` is the one directory that may not be linked
      have hnodes : ∀ c ∈ ((g.addNode parent).addEdge parent child).nodes,
          ¬ (c == parent) = true → ((g.addNode parent).addEdge parent child).LinkedAt c := by
        intro c hc hcp
        rw [nodes_addEdge, addNode, if_neg hnew] at hc
        rcases List.mem_append.1 hc with hc | hc
        · exact hkeep c hc
        · exact absurd (List.mem_singleton.1 hc ▸ BEq.rfl) hcp
      obtain ⟨hlinked, hall⟩ :=
        linked_linkUp hsound (by rw [contains_addEdge]; exact hhas) hnodes
      refine ⟨hlinked, fun q => ?_⟩
      rw [hall, contains_addEdge, contains_addNode, Bool.or_eq_true, Path.covers_iff_parentDir? (p := child)]
      constructor
      · rintro ((he | h) | h)
        · exact .inr (.inr ⟨parent, hpar, .of_beq (BEq.symm he)⟩)
        · exact .inl h
        · exact .inr (.inr ⟨parent, hpar, h⟩)
      · rintro (h | he | ⟨m, hm, hqm⟩)
        · exact .inl (.inr h)
        · exact .inl (.inr (hknown he))
        · obtain rfl : parent = m := Option.some.inj (hpar.symm.trans hm)
          exact .inr hqm
termination_by child.components.length
decreasing_by exact Path.length_components_of_parentDir? ‹_›

/-- **An insertion** keeps the graph linked and adds the directory and all above it. -/
theorem Linked.insert (hg : g.Linked) (p : Path) :
    (g.insert p).Linked ∧ ∀ q, (g.insert p).contains q = true ↔ g.contains q = true ∨ q.Covers p := by
  have hnodes : ∀ c ∈ (g.addNode p).nodes, ¬ (c == p) = true → (g.addNode p).LinkedAt c := by
    intro c hc hcp m hm
    rw [edges_addNode]
    unfold addNode at hc
    split at hc
    · exact hg.linked c hc m hm
    · rcases List.mem_append.1 hc with hc | hc
      · exact hg.linked c hc m hm
      · exact absurd (List.mem_singleton.1 hc ▸ BEq.rfl) hcp
  obtain ⟨hlinked, hall⟩ := linked_linkUp (hg.toSound.addNode p) (by simp [contains_addNode]) hnodes
  refine ⟨hlinked, fun q => ?_⟩
  rw [AncestryGraph.insert, hall, contains_addNode, Bool.or_eq_true]
  constructor
  · rintro ((he | h) | h)
    · exact .inr (.of_beq (BEq.symm he))
    · exact .inl h
    · exact .inr h
  · rintro (h | h)
    · exact .inl (.inr h)
    · exact .inr h

/-! ## Graphs of lists -/

theorem linked_empty : empty.Linked := ⟨⟨.nil, by simp [empty], by simp [empty], .nil⟩, by simp [empty]⟩

private theorem linked_foldl_insert (hg : g.Linked) (paths : List Path) :
    (paths.foldl insert g).Linked ∧
      ∀ q, (paths.foldl insert g).contains q = true ↔ g.contains q = true ∨ ∃ p ∈ paths, q.Covers p := by
  induction paths generalizing g with
  | nil => exact ⟨hg, fun q => by simp⟩
  | cons p rest ih =>
    obtain ⟨hins, hhas⟩ := hg.insert p
    obtain ⟨hlinked, hall⟩ := ih hins
    refine ⟨hlinked, fun q => ?_⟩
    rw [List.foldl_cons, hall, hhas, or_assoc]
    simp

theorem linked_ofList (paths : List Path) : (ofList paths).Linked := (linked_foldl_insert linked_empty paths).1

/-- **The graph of a list** holds what is listed and everything above it. -/
theorem contains_ofList {paths : List Path} :
    (ofList paths).contains q = true ↔ ∃ p ∈ paths, q.Covers p := by
  rw [ofList, (linked_foldl_insert linked_empty paths).2]
  exact ⟨fun h => h.elim (fun h => absurd h (by simp [contains, empty])) id, .inr⟩

/-! ## Reading -/

/-- **The directories directly inside one** are those the graph has an edge to. -/
theorem Linked.mem_childrenByAge (hg : g.Linked) : c ∈ g.childrenByAge p ↔ c ∈ g.nodes ∧ c.LiesIn p := by
  rw [childrenByAge, List.mem_map]
  constructor
  · rintro ⟨e, he, rfl⟩
    obtain ⟨hmem, hfrom⟩ := List.mem_filter.1 he
    exact ⟨(hg.edge_nodes e hmem).2, (Path.LiesIn.congr BEq.rfl hfrom).1 (hg.edge_liesIn e hmem)⟩
  · rintro ⟨hc, hlies⟩
    obtain ⟨e, he, hec⟩ := hg.linked c hc p hlies
    have hfrom : (e.1 == p) = true :=
      Path.LiesIn.beq ((Path.LiesIn.congr hec BEq.rfl).1 (hg.edge_liesIn e he)) hlies
    exact ⟨e, List.mem_filter.2 ⟨he, hfrom⟩, hg.toSound.eq_of_beq (hg.edge_nodes e he).2 hc hec⟩

/-- A directory that another one covers is that one itself, or a child of it covers it. -/
theorem Linked.eq_or_child_covers (hg : g.Linked) (hq : g.contains q = true) (hpq : p.Covers q) :
    (p == q) = true ∨ ∃ c, (c ∈ g.nodes ∧ c.LiesIn p) ∧ c.Covers q := by
  rcases Path.covers_iff_beq_or_liesIn.1 hpq with he | ⟨c, hlies, hcq⟩
  · exact .inl he
  · -- the directory in between is in the graph, perhaps under another spelling
    have hc : g.contains c = true := hg.contains_of_covers hq hcq
    obtain ⟨n, hn, hnc⟩ := contains_iff.1 hc
    exact .inr ⟨n, ⟨hn, (Path.LiesIn.congr hnc BEq.rfl).2 hlies⟩, (Path.Covers.of_beq hnc).trans hcq⟩

theorem Linked.childrenByAge_distinct (hg : g.Linked) (p : Path) :
    (g.childrenByAge p).Pairwise fun a b => ¬ (a == b) = true :=
  List.pairwise_map.2 (hg.edges_distinct.filter _)

theorem mem_inPathOrder {paths : List Path} : c ∈ inPathOrder paths ↔ c ∈ paths :=
  (List.mergeSort_perm _ _).mem_iff

/-- Different paths in path order are in strict order. -/
theorem inPathOrder_sorted {paths : List Path} (h : paths.Pairwise fun a b => ¬ (a == b) = true) :
    (inPathOrder paths).Pairwise (· < ·) := by
  have hle : (inPathOrder paths).Pairwise fun a b => a.le b = true :=
    List.pairwise_mergeSort (fun a b c => @Path.le_trans a b c) Path.le_total paths
  have hne : (inPathOrder paths).Pairwise fun a b => ¬ (a == b) = true :=
    (List.mergeSort_perm paths Path.le).symm.pairwise h fun hab hba => hab (BEq.symm hba)
  exact (hle.and hne).imp fun ⟨hab, hne⟩ => (Path.le_iff.1 hab).resolve_right hne

theorem Linked.mem_children (hg : g.Linked) : c ∈ g.children p ↔ c ∈ g.nodes ∧ c.LiesIn p := by
  rw [children, mem_inPathOrder, hg.mem_childrenByAge]

theorem Linked.children_sorted (hg : g.Linked) (p : Path) : (g.children p).Pairwise (· < ·) :=
  inPathOrder_sorted (hg.childrenByAge_distinct p)

/-- **The roots** are the directories with none above them. -/
theorem Linked.mem_roots (hg : g.Linked) : p ∈ g.roots ↔ p ∈ g.nodes ∧ p.parentDir? = none := by
  rw [roots, mem_inPathOrder, List.mem_filter, Bool.not_eq_true', ← Bool.not_eq_true, List.any_eq_true]
  refine and_congr_right fun hp => ⟨fun h => ?_, fun h ⟨e, he, hep⟩ => ?_⟩
  · cases hpar : p.parentDir? with
    | none => rfl
    | some m => exact absurd (hg.linked p hp m (.of_parentDir? hpar)) h
  · obtain ⟨m, hm, -⟩ := (Path.LiesIn.congr hep BEq.rfl).1 (hg.edge_liesIn e he)
    rw [h] at hm
    exact absurd hm (by simp)

theorem Linked.roots_sorted (hg : g.Linked) : g.roots.Pairwise (· < ·) :=
  inPathOrder_sorted (hg.distinct.filter _)

end RootFold.AncestryGraph
