import RootFold.Proofs.Ancestry.Closure

/-!
# `RootFold.Proofs.Ancestry.Respelling` — the graph is determined by the directories that were inserted

An insertion that meets a known directory stops, so the graph keeps the traces of the order of insertion: the order of
its directories and edges, and the spelling of each directory. What can be asked of it shows none of these but the
spelling. It holds what was inserted and all above, says in path order which directories are at the top and which are
directly inside one, and the answers of two graphs of the same directories are the same one by one.

## Contents
- **Lists in path order.** `select_respelled`, for lists of directories of two graphs.
- **Two graphs.** `contains_ofList_congr`; `children_respelled`, `roots_respelled`, `size_eq`.
- **Known directories.** `Linked.insert_of_contains`.
- **The closure.** `ofList_is_closure`.
-/

namespace RootFold

variable {g g' : AncestryGraph} {p p' q : Path} {cs cs' paths paths' : List Path} {P P' : Path → Prop}

/-! ## Lists in path order -/

/-- **The directories with a property** of two graphs of the same directories, in path order, are the same up to
    spelling. -/
theorem select_respelled (hsame : ∀ q, g.contains q = g'.contains q)
    (hP : ∀ {c c' : Path}, (c == c') = true → (P c ↔ P' c'))
    (h : cs.Pairwise (· < ·)) (hmem : ∀ c, c ∈ cs ↔ c ∈ g.nodes ∧ P c)
    (h' : cs'.Pairwise (· < ·)) (hmem' : ∀ c, c ∈ cs' ↔ c ∈ g'.nodes ∧ P' c) :
    List.Forall₂ (fun c c' : Path => (c == c') = true) cs cs' := by
  apply forall₂_beq_of_sorted h h'
  intro steps
  constructor
  · rintro ⟨c, hc, rfl⟩
    obtain ⟨hnode, hPc⟩ := (hmem c).1 hc
    obtain ⟨c', hc', he⟩ := AncestryGraph.contains_iff.1 (hsame c ▸ AncestryGraph.contains_of_mem hnode)
    exact ⟨c', (hmem' c').2 ⟨hc', (hP (BEq.symm he)).1 hPc⟩, Path.beq_iff.1 he⟩
  · rintro ⟨c', hc', rfl⟩
    obtain ⟨hnode, hPc⟩ := (hmem' c').1 hc'
    obtain ⟨c, hc, he⟩ := AncestryGraph.contains_iff.1 ((hsame c').symm ▸ AncestryGraph.contains_of_mem hnode)
    exact ⟨c, (hmem c).2 ⟨hc, (hP he).2 hPc⟩, Path.beq_iff.1 he⟩

/-! ## Two graphs -/

/-- Lists of the same directories give graphs of the same directories. -/
theorem contains_ofList_congr (h : ∀ q, paths'.contains q = paths.contains q) (q : Path) :
    (AncestryGraph.ofList paths).contains q = (AncestryGraph.ofList paths').contains q := by
  have hforth : ∀ {paths paths' : List Path}, (∀ q, paths'.contains q = paths.contains q) →
      (AncestryGraph.ofList paths).contains q = true → (AncestryGraph.ofList paths').contains q = true := by
    intro paths paths' h hq
    obtain ⟨p, hp, hqp⟩ := AncestryGraph.contains_ofList.1 hq
    have hhas : paths'.contains p = true := (h p).trans (List.contains_iff_exists_mem_beq.2 ⟨p, hp, BEq.rfl⟩)
    obtain ⟨p', hp', hpp⟩ := List.contains_iff_exists_mem_beq.1 hhas
    exact AncestryGraph.contains_ofList.2 ⟨p', hp', hqp.trans (.of_beq hpp)⟩
  rw [Bool.eq_iff_iff]
  exact ⟨hforth h, hforth fun q => (h q).symm⟩

/-- **Two graphs of the same directories** have the same children, up to spelling. -/
theorem children_respelled (hg : g.Linked) (hg' : g'.Linked) (hsame : ∀ q, g.contains q = g'.contains q)
    (hp : (p == p') = true) :
    List.Forall₂ (fun c c' : Path => (c == c') = true) (g.children p) (g'.children p') :=
  select_respelled hsame (fun he => Path.LiesIn.congr he hp) (hg.children_sorted p) (fun _ => hg.mem_children)
    (hg'.children_sorted p') fun _ => hg'.mem_children

/-- So they have the same roots. -/
theorem roots_respelled (hg : g.Linked) (hg' : g'.Linked) (hsame : ∀ q, g.contains q = g'.contains q) :
    List.Forall₂ (fun r r' : Path => (r == r') = true) g.roots g'.roots := by
  have htop : ∀ {c c' : Path}, (c == c') = true → (c.parentDir? = none ↔ c'.parentDir? = none) := by
    intro c c' he
    rw [Path.parentDir?_eq_none_iff, Path.parentDir?_eq_none_iff, Path.beq_iff.1 he]
  exact select_respelled hsame htop hg.roots_sorted (fun _ => hg.mem_roots) hg'.roots_sorted fun _ => hg'.mem_roots

namespace AncestryGraph

/-- They have as many directories. -/
theorem size_eq (hg : g.Sound) (hg' : g'.Sound) (hsame : ∀ q, g.contains q = g'.contains q) : g.size = g'.size := by
  have hall : List.Forall₂ (fun n n' : Path => (n == n') = true) (inPathOrder g.nodes) (inPathOrder g'.nodes) := by
    have hany : ∀ {c c' : Path}, (c == c') = true → (True ↔ True) := fun _ => Iff.rfl
    apply select_respelled hsame hany
    · exact inPathOrder_sorted hg.distinct
    · exact fun c => mem_inPathOrder.trans (and_iff_left trivial).symm
    · exact inPathOrder_sorted hg'.distinct
    · exact fun c => mem_inPathOrder.trans (and_iff_left trivial).symm
  unfold size
  rw [← (List.mergeSort_perm g.nodes Path.le).length_eq, ← (List.mergeSort_perm g'.nodes Path.le).length_eq]
  exact hall.length_eq

/-! ## Known directories -/

/-- The edge to a known directory is there already. -/
theorem Linked.addEdge_eq (hg : g.Linked) (hp : g.contains p = true) (hlies : p.LiesIn q)
    (hq : g.contains q = true) : g.addEdge q p = g := by
  obtain ⟨np, hnp⟩ := exists_node? hp
  obtain ⟨nq, hnq⟩ := exists_node? hq
  obtain ⟨hmem, hnpp⟩ := node?_mem hnp
  obtain ⟨-, hnqq⟩ := node?_mem hnq
  have hlies' : np.LiesIn nq := (Path.LiesIn.congr hnpp hnqq).2 hlies
  obtain ⟨e, he, hto⟩ := hg.linked np hmem nq hlies'
  have hfrom : (e.1 == nq) = true := Path.LiesIn.beq ((Path.LiesIn.congr hto BEq.rfl).1 (hg.edge_liesIn e he)) hlies'
  have hold : g.edges.any (fun e => e.1 == nq && e.2 == np) = true :=
    List.any_eq_true.2 ⟨e, he, Bool.and_eq_true_iff.2 ⟨hfrom, hto⟩⟩
  simp only [addEdge, hnp, hnq, Option.getD_some, hold, if_true]

/-- **A known directory** that is inserted again changes nothing: it is linked, so the climb stops at once. -/
theorem Linked.insert_of_contains (hg : g.Linked) (hp : g.contains p = true) : g.insert p = g := by
  unfold AncestryGraph.insert
  rw [addNode_of_contains hp, linkUp]
  split
  · rfl
  · next parent hpar =>
    have hlies : p.LiesIn parent := .of_parentDir? hpar
    have hparent : g.contains parent = true := hg.contains_of_covers hp hlies.covers
    rw [if_pos hparent, addNode_of_contains hparent]
    exact hg.addEdge_eq hp hlies hparent

/-! ## The closure -/

/-- **The graph of a list is the closure of the list** towards the top. It holds what is listed and all above it, each
    directory once. The children of a directory are the directories of the graph that are directly inside it, and
    the roots are those with none above, both in strict path order. A known directory that is inserted again changes
    nothing, and a list of the same directories, in whatever order, however often and however spelled, gives a graph
    with the same answers. -/
theorem ofList_is_closure (paths : List Path) :
    let g := ofList paths
    (∀ q, g.contains q = true ↔ ∃ p ∈ paths, q.Covers p) ∧
    (g.nodes.Pairwise fun a b => ¬ (a == b) = true) ∧
    (∀ n, (g.children n).Pairwise (· < ·) ∧ ∀ c, c ∈ g.children n ↔ c ∈ g.nodes ∧ c.LiesIn n) ∧
    (g.roots.Pairwise (· < ·) ∧ ∀ r, r ∈ g.roots ↔ r ∈ g.nodes ∧ r.parentDir? = none) ∧
    (∀ p, g.contains p = true → g.insert p = g) ∧
    ∀ paths' : List Path, (∀ q, paths'.contains q = paths.contains q) →
      let g' := ofList paths'
      (∀ q, g.contains q = g'.contains q) ∧ g.size = g'.size ∧
      List.Forall₂ (fun r r' : Path => (r == r') = true) g.roots g'.roots ∧
      ∀ n n' : Path, (n == n') = true →
        List.Forall₂ (fun c c' : Path => (c == c') = true) (g.children n) (g'.children n') := by
  intro g
  have hg : g.Linked := linked_ofList paths
  refine ⟨fun q => contains_ofList, hg.distinct, ?_, ?_, fun p hp => hg.insert_of_contains hp, ?_⟩
  · intro n
    exact ⟨hg.children_sorted n, fun c => hg.mem_children⟩
  · exact ⟨hg.roots_sorted, fun r => hg.mem_roots⟩
  · intro paths' hpaths g'
    have hg' : g'.Linked := linked_ofList paths'
    have hsame : ∀ q, g.contains q = g'.contains q := contains_ofList_congr hpaths
    refine ⟨hsame, size_eq hg.toSound hg'.toSound hsame, roots_respelled hg hg' hsame, ?_⟩
    intro n n' hn
    exact children_respelled hg hg' hsame hn

/-- Three directories, the middle one inside the last. -/
def threeDirectories : List Path := [.ofText "src//a", .ofText "src/b/c", .ofText "src/b"]

/-- The same directories in another order, one of them twice and some spelled differently. -/
def threeRespelled : List Path := [.ofText "src/b//", .ofText "src/b/./c", .ofText "src/a", .ofText "src/a/."]

theorem ofList_is_closure_threeDirectories :
    (∀ q, threeRespelled.contains q = threeDirectories.contains q) ∧
      (ofList threeDirectories).size = 4 ∧ (ofList threeRespelled).size = 4 ∧
      List.Forall₂ (fun c c' : Path => (c == c') = true) ((ofList threeDirectories).children (.ofText "src"))
        ((ofList threeRespelled).children (.ofText "src/")) := by
  have hpaths : ∀ q, threeRespelled.contains q = threeDirectories.contains q := by
    intro q
    have ha : (q == .ofText "src/a") = (q == .ofText "src//a") := BEq.congr_right (by decide)
    have ha' : (q == .ofText "src/a/.") = (q == .ofText "src//a") := BEq.congr_right (by decide)
    have hb : (q == .ofText "src/b//") = (q == .ofText "src/b") := BEq.congr_right (by decide)
    have hc : (q == .ofText "src/b/./c") = (q == .ofText "src/b/c") := BEq.congr_right (by decide)
    simp only [threeRespelled, threeDirectories, List.contains_cons, List.contains_nil, ha, ha', hb, hc]
    cases q == Path.ofText "src//a" <;> cases q == Path.ofText "src/b" <;> cases q == Path.ofText "src/b/c" <;> rfl
  obtain ⟨-, -, -, -, -, hanswers⟩ := ofList_is_closure threeDirectories
  obtain ⟨-, hsize, -, hchildren⟩ := hanswers threeRespelled hpaths
  have hfour : (ofList threeDirectories).size = 4 := by decide +kernel
  exact ⟨hpaths, hfour, hsize ▸ hfour, hchildren _ _ (by decide)⟩

end AncestryGraph

end RootFold
