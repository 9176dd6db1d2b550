import RootFold.Proofs.Ancestry.Spelling
import RootFold.Proofs.Merge.Recursion

/-!
# `RootFold.Proofs.Merge.Restriction` — merging in some of the trees

The recursion on a directory's tree reads the graph at the directories of the tree, and of these it reads the folders
and the namespaces. All of this can be cut down to a grove, and the trees of the grove are merged as before; what the
others would have left is what is missing.

## Contents
- **The rule.** `collapseNode_congr`: the rule for a directory of the grove.
- **Trees.** `SameKeyed` changes with `Local.bind_congr`; `PartOf` and `PartOf.collapseTree_eq`.
- **All trees.** `AncestryGraph.Linked.local_roots`, `PartOf.mapM_roots`.
-/

namespace RootFold

variable {grove : Grove} {ns ns' : NamespaceCache} {g g' : AncestryGraph} {p q node : Path} {cs : List Path}
  {outcomes : List Outcome} {acc acc' : Accumulator} {α β : Type}

/-! ## The rule -/

theorem NamespaceCache.Follows.of_lookup_eq (h : ns.Follows p q) (hp : ns.lookup p = ns'.lookup p)
    (hq : ns.lookup q = ns'.lookup q) : ns'.Follows p q := by
  obtain ⟨u, l, hu, hl, hsteps⟩ := h
  exact ⟨u, l, hp ▸ hu, hq ▸ hl, hsteps⟩

/-- One folder may absorb another whatever is known about other directories. -/
theorem Absorbs.of_lookup_eq {parent child : Folder} (h : Absorbs ns parent child)
    (hparent : ns.lookup parent.path = ns'.lookup parent.path) (hchild : ns.lookup child.path = ns'.lookup child.path) :
    Absorbs ns' parent child :=
  ⟨h.kind, h.flag, fun hwants => (h.follows hwants).of_lookup_eq hparent hchild⟩

/-- **The rule for a directory of a grove** needs to know the namespaces in the grove. -/
theorem collapseNode_congr (hns : ∀ q, grove.holds q = true → ns'.lookup q = ns.lookup q)
    (hnode : grove.holds node = true) (hin : ∀ f, .merged f ∈ outcomes → f.path.LiesIn node) :
    collapseNode ns node outcomes = collapseNode ns' node outcomes := by
  funext acc
  rcases blocked_mem_or_eq_map outcomes with hblocked | ⟨folders, rfl⟩
  · rw [collapseNode_of_blocked hblocked, collapseNode_of_blocked hblocked]
  · cases folders with
    | nil => rfl
    | cons first rest =>
      have hlies : ∀ f ∈ first :: rest, f.path.LiesIn node := fun f hf => hin f (List.mem_map_of_mem hf)
      have hchild : ∀ f ∈ first :: rest, ns'.lookup f.path = ns.lookup f.path := by
        intro f hf
        apply hns
        rwa [← grove.holds_of_covers (hlies f hf).covers]
      obtain ⟨b, hb, heq⟩ := collapseNode_inside ns hlies acc
      obtain ⟨b', hb', heq'⟩ := collapseNode_inside ns' hlies acc
      have hsame : b = b' := by
        rw [Bool.eq_iff_iff, hb, hb']
        constructor
        · intro h f hf
          exact (h f hf).of_lookup_eq (hns node hnode).symm (hchild f hf).symm
        · intro h f hf
          exact (h f hf).of_lookup_eq (hns node hnode) (hchild f hf)
      rw [heq, heq', hsame]

/-! ## Trees -/

/-- **Two changes are the same** for accumulators that hold their folders at the folders' own paths. -/
def SameKeyed (x y : Collapsing α) : Prop := ∀ acc : Accumulator, acc.KeyedByPath → x acc = y acc

/-- One change after the other. -/
theorem Local.bind_congr {region : Path → Prop} {post : α → Prop} {x y : Collapsing α} {f f' : α → Collapsing β}
    (hx : Local region post x) (hxy : SameKeyed x y) (hf : ∀ a, post a → SameKeyed (f a) (f' a)) :
    SameKeyed (x >>= f) (y >>= f') := by
  intro acc hkeyed
  show (x acc >>= fun r => f r.1 r.2) = (y acc >>= fun r => f' r.1 r.2)
  rw [← hxy acc hkeyed]
  cases hresult : x acc with
  | error e => rfl
  | ok r =>
    obtain ⟨hkeyed', hpost, -⟩ := hx.keeps hkeyed hresult
    exact hf r.1 hpost r.2 hkeyed'

theorem mapM_sameKeyed {X Y : Path → Collapsing Outcome} (hX : ∀ c ∈ cs, Local c.Covers (Outcome.At c) (X c))
    (hXY : ∀ c ∈ cs, SameKeyed (X c) (Y c)) : SameKeyed (cs.mapM X) (cs.mapM Y) := by
  induction cs with
  | nil => exact fun _ _ => rfl
  | cons c rest ih =>
    obtain ⟨hXc, hXrest⟩ := List.forall_mem_cons.1 hX
    obtain ⟨hc, hrest⟩ := List.forall_mem_cons.1 hXY
    rw [List.mapM_cons, List.mapM_cons]
    refine hXc.bind_congr hc fun o _ => ?_
    exact (local_mapM hXrest).bind_congr (ih hXrest hrest) fun _ _ _ _ => rfl

/-- **A graph and a cache are what a grove has** of others: the same directories, spelled alike, and the same namespaces
    for them. -/
structure PartOf (grove : Grove) (g g' : AncestryGraph) (ns ns' : NamespaceCache) : Prop where
  linked : g.Linked
  linked' : g'.Linked
  nodes : ∀ q, q ∈ g'.nodes ↔ q ∈ g.nodes ∧ grove.holds q = true
  lookup : ∀ q, grove.holds q = true → ns'.lookup q = ns.lookup q

namespace PartOf

/-- A directory of the grove has all its children in the grove. -/
theorem children_eq (h : PartOf grove g g' ns ns') (hp : grove.holds p = true) : g'.children p = g.children p := by
  refine eq_of_sorted_of_mem_iff (h.linked'.children_sorted p) (h.linked.children_sorted p) fun c => ?_
  rw [h.linked'.mem_children, h.linked.mem_children, h.nodes, and_right_comm, and_iff_left_iff_imp]
  rintro ⟨-, hlies⟩
  rwa [← grove.holds_of_covers hlies.covers]

/-- **A tree of the grove** is merged in the part as in the whole. -/
theorem collapseTree_eq (h : PartOf grove g g' ns ns') :
    ∀ p ∈ g.nodes, grove.holds p = true → SameKeyed (collapseTree g ns p) (collapseTree g' ns' p) := by
  refine h.linked.inside_induction fun p _ ih hp => ?_
  have hchild : ∀ c ∈ g.children p, c ∈ g.nodes ∧ c.LiesIn p := fun c hc => h.linked.mem_children.1 hc
  have hlocal : ∀ c ∈ g.children p, Local c.Covers (Outcome.At c) (collapseTree g ns c) := fun c hc =>
    local_collapseTree h.linked ns c (hchild c hc).1
  have hsame : ∀ c ∈ g.children p, SameKeyed (collapseTree g ns c) (collapseTree g' ns' c) := by
    intro c hc
    apply ih c (h.linked.mem_childrenByAge.2 (hchild c hc))
    rwa [← grove.holds_of_covers (hchild c hc).2.covers]
  rw [h.linked.collapseTree_eq, h.linked'.collapseTree_eq, h.children_eq hp]
  refine (local_mapM hlocal).bind_congr (mapM_sameKeyed hlocal hsame) fun outcomes houtcomes acc _ => ?_
  have hlies : ∀ f, .merged f ∈ outcomes → f.path.LiesIn p := by
    intro f hf
    obtain ⟨c, hc, hfc⟩ := houtcomes f hf
    exact (Path.LiesIn.congr hfc BEq.rfl).2 (hchild c hc).2
  rw [collapseNode_congr h.lookup hp hlies]

end PartOf

/-! ## All trees -/

theorem AgreeOn.within (acc : Accumulator) (grove : Grove) :
    AgreeOn (fun q => grove.holds q = true) acc (acc.within grove) := by
  intro q hq
  rw [PathMap.row?_within, if_pos hq]

theorem Accumulator.KeyedByPath.within (h : acc.KeyedByPath) (grove : Grove) :
    Accumulator.KeyedByPath (acc.within grove) := fun e he => h e (List.mem_filter.1 he).1

/-- The trees of all roots are local. -/
theorem AncestryGraph.Linked.local_roots (hg : g.Linked) (ns : NamespaceCache) :
    ∀ c ∈ g.roots, Local c.Covers (Outcome.At c) (collapseTree g ns c) := by
  intro c hc
  exact local_collapseTree hg ns c (hg.mem_roots.1 hc).1

namespace PartOf

theorem mem_roots (h : PartOf grove g g' ns ns') : p ∈ g'.roots ↔ p ∈ g.roots ∧ grove.holds p = true := by
  rw [h.linked'.mem_roots, h.linked.mem_roots, h.nodes, and_right_comm]

/-- **All trees of the part** leave the part of what all trees of the whole leave. -/
theorem mapM_roots (h : PartOf grove g g' ns ns') (hkeyed : acc.KeyedByPath)
    (hall : g.roots.mapM (collapseTree g ns) acc = .ok (outcomes, acc')) :
    ∃ outcomes', g'.roots.mapM (collapseTree g' ns') (acc.within grove) = .ok (outcomes', acc'.within grove) := by
  have htogether := (mapM_eq_ok_iff (h.linked.local_roots ns) h.linked.roots_apart hkeyed).1 hall
  -- a tree of the grove finds its folders in the part, and leaves them as it would leave them in the whole
  have heach : ∀ c ∈ g'.roots, ∃ o left, collapseTree g' ns' c (acc.within grove) = .ok (o, left) ∧
      AgreeOn c.Covers left (acc'.within grove) := by
    intro c hc
    obtain ⟨hroot, hheld⟩ := h.mem_roots.1 hc
    have hcov : ∀ q, c.Covers q → grove.holds q = true := fun q hcq => grove.holds_of_covers hcq ▸ hheld
    obtain ⟨o, left, hc, hend⟩ := htogether.each c hroot
    obtain ⟨left', hc', hleft⟩ := (h.linked.local_roots ns c hroot).congr hkeyed (hkeyed.within grove)
      ((AgreeOn.within acc grove).mono hcov) hc
    rw [h.collapseTree_eq c (h.linked.mem_roots.1 hroot).1 hheld _ (hkeyed.within grove)] at hc'
    exact ⟨o, left', hc', (hleft.symm.trans hend).trans ((AgreeOn.within acc' grove).mono hcov)⟩
  have hsome : ∀ c ∈ g'.roots, ∃ o, outcome? (collapseTree g' ns' c (acc.within grove)) = some o := by
    intro c hc
    obtain ⟨o, left, hc, -⟩ := heach c hc
    rw [hc]
    exact ⟨o, rfl⟩
  obtain ⟨outcomes', houtcomes'⟩ := exists_map_some hsome
  refine ⟨outcomes', (mapM_eq_ok_iff (h.linked'.local_roots ns') h.linked'.roots_apart (hkeyed.within grove)).2
    ⟨heach, houtcomes', fun q hq => ?_⟩⟩
  -- outside the trees of the grove the whole has not changed, or the part has nothing
  rw [PathMap.row?_within, PathMap.row?_within]
  cases hheld : grove.holds q with
  | false => rfl
  | true =>
    rw [if_pos rfl, if_pos rfl]
    apply htogether.frame q
    intro c hc hcq
    exact hq c (h.mem_roots.2 ⟨hc, (grove.holds_of_covers hcq).trans hheld⟩) hcq

end PartOf

end RootFold
