import RootFold.Simplify
import RootFold.Proofs.Ancestry.Traversal
import RootFold.Proofs.Merge.Settled

/-!
# `RootFold.Proofs.Merge.Walk` — a walk leaves the topmost directories that collapse

Trees that have nothing in common can be walked one after the other: what one walk leaves the next one keeps.
That is true of the trees directly inside a directory and of the trees of different roots. With the decision about
one directory it gives the walk of a block by induction from the inside out, and with that the walk of a whole
graph.

## Contents
- **Apart.** `Apart` trees; `Reduced.cons` and `Walked.cons` put two walks together.
- **Blocks.** `walks_step` for a directory, `walks_forest` for those inside it, `walks_block` for both.
- **Graphs.** `exists_walk`, `exists_walkRoots`, `exists_walkAll`.
-/

namespace RootFold

variable {ns : NamespaceCache} {declared : List Folder} {g : AncestryGraph} {p q c : Path} {cs others : List Path}
  {acc acc' acc₁ acc₂ : Accumulator} {finished finished' finished₁ finished₂ : Finished}

/-! ## Apart -/

/-- **Trees that have nothing in common.** -/
def Apart (a b : Path) : Prop := ∀ q : Path, a.Covers q → ¬ b.Covers q

/-- Different directories directly inside one are apart. -/
theorem apart_of_liesIn (hlies : ∀ c ∈ cs, c.LiesIn p) (hne : cs.Pairwise fun a b => ¬ (a == b) = true) :
    cs.Pairwise Apart := by
  refine hne.imp_of_mem fun ha hb hab q haq hbq => ?_
  exact hab (Path.LiesIn.beq_of_covers (hlies _ ha) (hlies _ hb) haq hbq)

theorem not_covers_of_apart (hap : ∀ d ∈ others, Apart c d) (hcq : c.Covers q) : ∀ d ∈ others, ¬ d.Covers q :=
  fun d hd => hap d hd q hcq

/-- Once a tree was walked, those apart from it are as fresh as before. -/
theorem Fresh.rest (hf : Fresh declared (c :: others) acc) (hap : ∀ d ∈ others, Apart c d)
    (hr : Reduced ns declared [c] acc acc₁) : Fresh declared others acc₁ where
  faithful := hr.faithful
  untouched d hd q hdq := by
    have hcq : ∀ c' ∈ [c], ¬ c'.Covers q := by
      intro c' hc' hcq
      rw [List.mem_singleton.1 hc'] at hcq
      exact hap d hd q hcq hdq
    rw [PathMap.contains, hr.frame q hcq]
    exact hf.untouched d (List.mem_cons_of_mem _ hd) q hdq

/-- **Two walks, one after the other,** of trees that are apart. -/
theorem Reduced.cons (hap : ∀ d ∈ others, Apart c d) (h₁ : Reduced ns declared [c] acc acc₁)
    (h₂ : Reduced ns declared others acc₁ acc₂) : Reduced ns declared (c :: others) acc acc₂ where
  faithful := h₂.faithful
  held d hd q hdq := by
    rcases List.mem_cons.1 hd with rfl | hd
    · rw [PathMap.contains, h₂.frame q (not_covers_of_apart hap hdq)]
      exact h₁.held d (List.mem_singleton_self d) q hdq
    · exact h₂.held d hd q hdq
  frame q hq := by
    obtain ⟨hcq, hothers⟩ := List.forall_mem_cons.1 hq
    rw [h₂.frame q hothers, h₁.frame q (List.forall_mem_singleton.2 hcq)]

theorem Decided.congr {o : Outcome} (h : Decided ns declared acc p o) (heq : acc'.find? p = acc.find? p) :
    Decided ns declared acc' p o := by
  cases o with
  | merged f => exact ⟨heq.trans h.1, h.2⟩
  | blocked => exact h

/-- The outcomes of two walks wait side by side. -/
theorem Walked.cons (hap : ∀ d ∈ others, Apart c d) (h₁ : Walked ns declared [c] finished finished₁ acc acc₁)
    (h₂ : Walked ns declared others finished₁ finished₂ acc₁ acc₂) :
    Walked ns declared (c :: others) finished finished₂ acc acc₂ where
  toReduced := h₁.toReduced.cons hap h₂.toReduced
  waiting d hd := by
    rcases List.mem_cons.1 hd with rfl | hd
    · obtain ⟨o, ho, hdec⟩ := h₁.waiting d (List.mem_singleton_self d)
      have hapart := not_covers_of_apart hap (.refl d)
      exact ⟨o, by rw [h₂.waitingFrame d hapart, ho], hdec.congr (h₂.frame d hapart)⟩
    · exact h₂.waiting d hd
  waitingFrame q hq := by
    obtain ⟨hcq, hothers⟩ := List.forall_mem_cons.1 hq
    rw [h₂.waitingFrame q hothers, h₁.waitingFrame q (List.forall_mem_singleton.2 hcq)]

/-! ## Blocks -/

/-- **A list of directories walks some trees:** from any fresh state its steps succeed and leave the trees
    walked. -/
def Walks (g : AncestryGraph) (ns : NamespaceCache) (declared : List Folder) (fronts nodes : List Path) : Prop :=
  ∀ (finished : Finished) (s : Pass), Fresh declared fronts s.accumulator →
    ∃ finished' s', nodes.foldlM (stepNode g ns) finished s = .ok finished' s' ∧
      Walked ns declared fronts finished finished' s.accumulator s'.accumulator

/-- **The graph of some folders:** its directories are those that lead to one of them. -/
structure GraphOf (declared : List Folder) (g : AncestryGraph) : Prop where
  linked : g.Linked
  contains : ∀ q, g.contains q = true ↔ Occupied declared q

theorem GraphOf.occupied (hg : GraphOf declared g) (hp : p ∈ g.nodes) : Occupied declared p :=
  (hg.contains p).1 (AncestryGraph.contains_of_mem hp)

/-- The graph's edges lead to the directories inside one. -/
theorem GraphOf.insideOf (hg : GraphOf declared g) (p : Path) : InsideOf declared p (g.childrenByAge p) where
  liesIn c hc := (hg.linked.mem_childrenByAge.1 hc).2
  occupied c hc := hg.occupied (hg.linked.mem_childrenByAge.1 hc).1
  complete q hpq hq := by
    rcases Path.covers_iff_beq_or_liesIn.1 hpq with he | ⟨c, hlies, hcq⟩
    · exact .inl he
    · obtain ⟨n, hn, hnc⟩ := AncestryGraph.contains_iff.1 ((hg.contains c).2 (hq.of_covers hcq))
      have hchild : n ∈ g.childrenByAge p :=
        hg.linked.mem_childrenByAge.2 ⟨hn, (Path.LiesIn.congr hnc BEq.rfl).2 hlies⟩
      exact .inr ⟨n, hchild, (Path.Covers.congr hnc BEq.rfl).2 hcq⟩

/-- **One step** finds the outcomes that it needs and leaves its own. -/
theorem walks_step (hi : Independent declared) (hg : GraphOf declared g) (hp : p ∈ g.nodes) {s : Pass}
    (hf : Fresh declared [p] acc)
    (hw : Walked ns declared (g.childrenByAge p) finished finished₁ acc s.accumulator) :
    ∃ finished₂ s', stepNode g ns finished₁ p s = .ok finished₂ s' ∧
      Walked ns declared [p] finished finished₂ acc s'.accumulator := by
  have hin := hg.insideOf p
  -- the step asks for the directories inside in path order; the walk went through them by age
  have hmem : ∀ c, c ∈ g.children p ↔ c ∈ g.childrenByAge p := fun c => AncestryGraph.mem_inPathOrder
  have hdistinct : (g.children p).Pairwise fun a b => ¬ (a == b) = true :=
    (hg.linked.children_sorted p).imp Path.not_beq_of_lt
  obtain ⟨outcomes, left, htake, hmap, hleft⟩ := exists_takeOutcomes hdistinct fun c hc =>
    (hw.waiting c ((hmem c).1 hc)).imp fun o ho => ho.1
  have hout : ∀ o, o ∈ outcomes ↔ ∃ c ∈ g.childrenByAge p, finished₁.find? c = some o := by
    intro o
    have hsome : o ∈ outcomes ↔ some o ∈ outcomes.map some := by simp
    rw [hsome, hmap, List.mem_map]
    simp only [hmem]
  obtain ⟨o, s', hmerge, hset⟩ := exists_mergeNode hi hin (hg.occupied hp) hf hw hout
  have hstep : stepNode g ns finished₁ p s = .ok (left.insert p o) s' := by
    rw [stepNode, htake, bind_ok (PassM.ofExcept_ok _ s)]
    simp only
    rw [bind_ok hmerge]
    rfl
  have houtside : ∀ q, (∀ c ∈ [p], ¬ c.Covers q) → ∀ c ∈ g.childrenByAge p, ¬ c.Covers q := fun q hq c hc hcq =>
    hq p (List.mem_singleton_self p) ((hin.liesIn c hc).covers.trans hcq)
  refine ⟨_, s', hstep, ⟨hset.faithful, hset.held, fun q hq => ?_⟩, fun c hc => ?_, fun q hq => ?_⟩
  · rw [hset.frame q hq, hw.frame q (houtside q hq)]
  · obtain rfl := List.mem_singleton.1 hc
    exact ⟨o, by rw [PathMap.find?_insert, if_pos BEq.rfl], hset.decided⟩
  · rw [PathMap.find?_insert, if_neg fun he => hq p (List.mem_singleton_self p) (.of_beq (BEq.symm he)), hleft,
      if_neg, hw.waitingFrame q (houtside q hq)]
    intro hany
    obtain ⟨c, hc, hqc⟩ := List.any_eq_true.1 hany
    exact houtside q hq c ((hmem c).1 hc) (.of_beq (BEq.symm hqc))

/-- **Trees that are apart** are walked one after the other. -/
theorem walks_forest {block : Path → List Path} (hap : cs.Pairwise Apart)
    (h : ∀ c ∈ cs, Walks g ns declared [c] (block c)) :
    Walks g ns declared cs (cs.flatMap block) := by
  induction cs with
  | nil =>
    intro finished s hfresh
    exact ⟨finished, s, rfl, ⟨hfresh.faithful, by simp, fun _ _ => rfl⟩, by simp, fun _ _ => rfl⟩
  | cons c others ih =>
    obtain ⟨hfirst, hothers⟩ := List.pairwise_cons.1 hap
    intro finished s hfresh
    have hfreshFirst : Fresh declared [c] s.accumulator :=
      ⟨hfresh.faithful, fun d hd => hfresh.untouched d (by simp [List.mem_singleton.1 hd])⟩
    obtain ⟨finished₁, s₁, heq₁, hw₁⟩ := h c (by simp) finished s hfreshFirst
    obtain ⟨finished₂, s₂, heq₂, hw₂⟩ :=
      ih hothers (fun d hd => h d (by simp [hd])) finished₁ s₁ (hfresh.rest hfirst hw₁.toReduced)
    refine ⟨finished₂, s₂, ?_, hw₁.cons hfirst hw₂⟩
    rw [List.flatMap_cons, List.foldlM_append, bind_ok heq₁]
    exact heq₂

/-- **A block walks the tree of its directory.** -/
theorem walks_block (hi : Independent declared) (hg : GraphOf declared g) :
    ∀ p ∈ g.nodes, Walks g ns declared [p] (g.block p) := by
  -- from the inside out: the blocks of the directories inside, then the step of `p`
  refine hg.linked.inside_induction fun p hp ih => ?_
  intro finished s hfresh
  have hin := hg.insideOf p
  have hinside : Fresh declared (g.childrenByAge p) s.accumulator :=
    ⟨hfresh.faithful, fun c hc q hcq => hfresh.untouched p (by simp) q ((hin.liesIn c hc).covers.trans hcq)⟩
  obtain ⟨finished₁, s₁, heq₁, hw₁⟩ := walks_forest
    (apart_of_liesIn hin.liesIn (hg.linked.childrenByAge_distinct p)) ih finished s hinside
  obtain ⟨finished₂, s₂, heq₂, hw₂⟩ := walks_step hi hg hp hfresh hw₁
  refine ⟨finished₂, s₂, ?_, hw₂⟩
  rw [hg.linked.block_eq, List.foldlM_append, bind_ok heq₁, List.foldlM_cons, bind_ok heq₂]
  rfl

/-! ## Graphs -/

/-- **The walk of a tree** succeeds, and its outcome is right. -/
theorem exists_walk (ns : NamespaceCache) (hi : Independent declared) (hg : GraphOf declared g) (hp : p ∈ g.nodes)
    {s : Pass} (hf : Fresh declared [p] s.accumulator) :
    ∃ o s', walk g ns p s = .ok o s' ∧ Settled ns declared p o s.accumulator s'.accumulator := by
  have hhas := AncestryGraph.contains_of_mem hp
  obtain ⟨n, hn⟩ := AncestryGraph.exists_node? hhas
  have hnp : n = p :=
    hg.linked.toSound.eq_of_beq (AncestryGraph.node?_mem hn).1 hp (AncestryGraph.node?_mem hn).2
  have horder : g.postOrder p = g.block p := by rw [hg.linked.postOrder_eq hn, hnp]
  obtain ⟨finished, s', heq, hw⟩ := walks_block hi hg p hp .empty s hf
  obtain ⟨o, ho, hdec⟩ := hw.waiting p (List.mem_singleton_self p)
  refine ⟨o, s', ?_, hw.toReduced, hdec⟩
  rw [walk, hhas, if_neg (by simp), horder, bind_ok heq, ho]
  rfl

/-- The walk of a tree with its note. -/
theorem exists_walkRoot (ns : NamespaceCache) (hi : Independent declared) (hg : GraphOf declared g)
    (hp : p ∈ g.nodes) {s : Pass} (hf : Fresh declared [p] s.accumulator) :
    ∃ s', walkRoot g ns p s = .ok () s' ∧ Reduced ns declared [p] s.accumulator s'.accumulator := by
  obtain ⟨o, s', heq, hset⟩ := exists_walk ns hi hg hp hf
  rw [walkRoot, bind_ok heq]
  cases o with
  | merged f => exact ⟨_, rfl, hset.toReduced⟩
  | blocked => exact ⟨s', rfl, hset.toReduced⟩

/-- **Roots that are apart** are walked one after the other. -/
theorem exists_walkRoots (ns : NamespaceCache) (hi : Independent declared) (hg : GraphOf declared g)
    (hcs : ∀ c ∈ cs, c ∈ g.nodes) (hap : cs.Pairwise Apart) {s : Pass} (hf : Fresh declared cs s.accumulator) :
    ∃ s', cs.forM (walkRoot g ns) s = .ok () s' ∧ Reduced ns declared cs s.accumulator s'.accumulator := by
  induction cs generalizing s with
  | nil => exact ⟨s, rfl, hf.faithful, by simp, fun _ _ => rfl⟩
  | cons c others ih =>
    obtain ⟨hfirst, hothers⟩ := List.pairwise_cons.1 hap
    have hfreshFirst : Fresh declared [c] s.accumulator :=
      ⟨hf.faithful, fun d hd => hf.untouched d (by simp [List.mem_singleton.1 hd])⟩
    obtain ⟨s₁, heq₁, hr₁⟩ := exists_walkRoot ns hi hg (hcs c (by simp)) hfreshFirst
    obtain ⟨s₂, heq₂, hr₂⟩ := ih (fun d hd => hcs d (by simp [hd])) hothers (hf.rest hfirst hr₁)
    refine ⟨s₂, ?_, hr₁.cons hfirst hr₂⟩
    rw [forM_cons_ok heq₁]
    exact heq₂

/-- **An accumulator that holds the declared folders,** each at its path, and nothing else. -/
def Registered (declared : List Folder) (acc : Accumulator) : Prop :=
  ∀ q f, acc.find? q = some f ↔ f ∈ declared ∧ (f.path == q) = true

theorem Registered.contains_iff (h : Registered declared acc) : acc.contains q = true ↔ DeclaredAt declared q := by
  rw [PathMap.contains_iff]
  simp only [h q]
  rfl

theorem Registered.graphOf (h : Registered declared acc) : GraphOf declared (.ofList acc.keys) where
  linked := AncestryGraph.linked_ofList _
  contains q := by
    rw [AncestryGraph.contains_ofList]
    constructor
    · rintro ⟨k, hk, hqk⟩
      obtain ⟨f, hf, hfk⟩ := h.contains_iff.1 (PathMap.contains_iff_keys.2 ⟨k, hk, BEq.rfl⟩)
      exact ⟨f, hf, hqk.trans (.of_beq (BEq.symm hfk))⟩
    · rintro ⟨f, hf, hqf⟩
      obtain ⟨k, hk, hkf⟩ := PathMap.contains_iff_keys.1 (h.contains_iff.2 ⟨f, hf, BEq.rfl⟩)
      exact ⟨k, hk, hqf.trans (.of_beq (BEq.symm hkf))⟩

theorem Registered.fresh (hi : Independent declared) (h : Registered declared acc) (fronts : List Path) :
    Fresh declared fronts acc where
  faithful := by
    refine ⟨fun q f hf => ((h q f).1 hf).2, fun q f hf => hi.represents ((h q f).1 hf).1, fun q f hf d hd hdq => ?_⟩
    obtain ⟨hmem, hfq⟩ := (h q f).1 hf
    exact hi.eq_of_covers hmem hd (.of_beq (BEq.trans hfq (BEq.symm hdq)))
  untouched _ _ _ _ := h.contains_iff

/-- A root is covered by itself alone. -/
theorem beq_of_covers_root {r : Path} (hr : r.parentDir? = none) (h : q.Covers r) : (q == r) = true := by
  rcases Path.covers_iff_parentDir?.1 h with he | ⟨m, hm, -⟩
  · exact he
  · exact absurd (hr.symm.trans hm) (by simp)

/-- Every directory of the graph is in the tree of a root. -/
theorem GraphOf.exists_root (hg : GraphOf declared g) {q : Path} (hq : Occupied declared q) :
    ∃ r ∈ g.roots, r.Covers q := by
  cases hpar : q.parentDir? with
  | none =>
    obtain ⟨n, hn, hnq⟩ := AncestryGraph.contains_iff.1 ((hg.contains q).2 hq)
    have htop : n.parentDir? = none := by
      rwa [Path.parentDir?_eq_none_iff, Path.beq_iff.1 hnq, ← Path.parentDir?_eq_none_iff]
    exact ⟨n, hg.linked.mem_roots.2 ⟨hn, htop⟩, .of_beq hnq⟩
  | some m =>
    have hcov := (Path.LiesIn.of_parentDir? hpar).covers
    obtain ⟨r, hr, hrm⟩ := hg.exists_root (hq.of_covers hcov)
    exact ⟨r, hr, hrm.trans hcov⟩
termination_by q.components.length
decreasing_by exact Path.length_components_of_parentDir? hpar

/-- The trees of different roots have nothing in common. -/
theorem AncestryGraph.Linked.roots_apart (hg : g.Linked) : g.roots.Pairwise Apart := by
  refine hg.roots_sorted.imp_of_mem fun ha hb hlt q haq hbq => ?_
  have hroot : ∀ r ∈ g.roots, r.parentDir? = none := fun r hr => (hg.mem_roots.1 hr).2
  rcases haq.total hbq with h | h
  · exact Path.not_beq_of_lt hlt (beq_of_covers_root (hroot _ hb) h)
  · exact Path.not_beq_of_lt hlt (BEq.symm (beq_of_covers_root (hroot _ ha) h))

/-- Seen from a root, the topmost directories are the topmost ones of all. -/
theorem topmostIn_root {r : Path} (hr : r.parentDir? = none) (h : r.Covers q) :
    TopmostIn ns declared r q ↔ Topmost ns declared q := by
  constructor
  · intro ht
    refine ⟨ht.occupied, ht.collapsible, fun m hm => ?_⟩
    by_cases he : (r == q) = true
    · -- the root itself: nothing is above it
      exact absurd (Path.LiesIn.covers ((Path.LiesIn.congr he BEq.rfl).2 hm))
        fun hmr => ((Path.LiesIn.congr he BEq.rfl).2 hm).not_beq (beq_of_covers_root hr hmr)
    · exact ht.top m hm (h.of_liesIn_of_not_beq he hm)
  · exact fun ht => ⟨ht.occupied, ht.collapsible, fun m hm _ => ht.top m hm⟩

/-- **The walks of all trees** succeed, and the folders that are held afterwards are those at the topmost
    directories that collapse. -/
theorem exists_walkAll (ns : NamespaceCache) (hi : Independent declared) (h : Registered declared acc)
    (notes : List Note) :
    ∃ s', walkAll ns acc ⟨acc, notes⟩ = .ok () s' ∧ Faithful declared s'.accumulator ∧
      ∀ q, s'.accumulator.contains q = true ↔ Topmost ns declared q := by
  have hg := h.graphOf
  obtain ⟨s', heq, hr⟩ := exists_walkRoots ns hi hg (fun c hc => (hg.linked.mem_roots.1 hc).1)
    hg.linked.roots_apart (s := ⟨acc, notes⟩) (h.fresh hi _)
  refine ⟨s', heq, hr.faithful, fun q => ?_⟩
  -- outside all trees nothing is declared and nothing is topmost
  by_cases hq : ∃ r ∈ (AncestryGraph.ofList acc.keys).roots, r.Covers q
  · obtain ⟨r, hroot, hrq⟩ := hq
    rw [hr.held r hroot q hrq, topmostIn_root (hg.linked.mem_roots.1 hroot).2 hrq]
  · have hempty : ¬ Occupied declared q := fun hocc => hq (hg.exists_root hocc)
    rw [PathMap.contains, hr.frame q fun c hc hcq => hq ⟨c, hc, hcq⟩]
    exact ⟨fun hd => absurd (h.contains_iff.1 hd).occupied hempty, fun ht => absurd ht.occupied hempty⟩

end RootFold
