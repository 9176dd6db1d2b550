import RootFold.Proofs.Ancestry.Levels
import RootFold.Proofs.Ancestry.PostOrder
import RootFold.Report.AncestryTree

/-!
# `RootFold.Proofs.Report.AncestryTree` — a drawing with a limit is the whole drawing cut there

A drawing is put together from the bottom up, with a table of finished trees that wait for the directory above. What it
is can be said from the top down, as the tree of directories below the root with a label for each. While the block of
a directory is worked off, the table changes at one place only. If the directory is within the limit, its tree is
there in the end, for the children's trees were put there before and are taken out again; if it is too deep, nothing
happens at all.

## Contents
- **Drawings.** `DirectoryTree.shown`, `DisplayTree.cut`, `cut_shown_treeBelow`.
- **Labels.** `NameShown`, `IsLabel`, `isLabel_nodeLabel`.
- **Limits.** `LimitLeaves` so many levels; `exists_limitLeaves`.
- **Putting together.** `takeTrees_eq`; one directory `find?_addTree`, the blocks of children `find?_forest`, a block
  `find?_block`; `displayTree_eq`.
- **Pruning.** `displayTree_is_pruning`.
-/

namespace RootFold

variable {g : AncestryGraph} {style : Style} {declared : PathMap Folder} {limit : Option Nat} {root p q c : Path}
  {d k n : Nat}

/-! ## Drawings -/

namespace DirectoryTree

mutual

/-- **A tree of directories as a tree of labels;** the label depends on the level. -/
def shown (label : Path → Nat → String) (level : Nat) : DirectoryTree → DisplayTree
  | node place inside => .node (label place level) (shownEach label (level + 1) inside)

/-- Each of some trees. -/
def shownEach (label : Path → Nat → String) (level : Nat) : List DirectoryTree → List DisplayTree
  | [] => []
  | t :: rest => shown label level t :: shownEach label level rest

end

theorem shownEach_eq (label : Path → Nat → String) (level : Nat) (ts : List DirectoryTree) :
    shownEach label level ts = ts.map (shown label level) := by
  induction ts with
  | nil => rfl
  | cons t rest ih => rw [shownEach, ih, List.map_cons]

end DirectoryTree

/-- **A drawing cut below a level:** what hangs at that level loses all that is below it. -/
def DisplayTree.cut : (level : Nat) → DisplayTree → DisplayTree
  | 0, .node label _ => .node label []
  | n + 1, .node label children => .node label (children.map (cut n))

namespace AncestryGraph

variable {label : Path → Nat → String}

theorem shown_treeBelow_zero : (g.treeBelow 0 p).shown label d = .node (label p d) [] := rfl

theorem shown_treeBelow_succ : (g.treeBelow (n + 1) p).shown label d =
    .node (label p d) ((g.children p).map fun c => (g.treeBelow n c).shown label (d + 1)) := by
  rw [treeBelow, DirectoryTree.shown, DirectoryTree.shownEach_eq, List.map_map]
  rfl

/-- Both at once, for a level within a limit. -/
theorem shown_treeBelow (h : d ≤ n) : (g.treeBelow (n - d) p).shown label d = .node (label p d)
    (if d < n then (g.children p).map fun c => (g.treeBelow (n - (d + 1)) c).shown label (d + 1) else []) := by
  rcases Nat.lt_or_eq_of_le h with hlt | rfl
  · obtain ⟨k, hk⟩ : ∃ k, n - d = k + 1 := ⟨n - (d + 1), by omega⟩
    have hk' : n - (d + 1) = k := by omega
    rw [if_pos hlt, hk, hk', shown_treeBelow_succ]
  · rw [if_neg (Nat.lt_irrefl d), Nat.sub_self, shown_treeBelow_zero]

/-- **Cutting** leaves so many levels. -/
theorem cut_shown_treeBelow :
    ((g.treeBelow n p).shown label d).cut k = (g.treeBelow (min n k) p).shown label d := by
  induction k generalizing n p d with
  | zero =>
    rw [Nat.min_zero]
    cases n with
    | zero => rfl
    | succ n => rw [shown_treeBelow_succ, DisplayTree.cut, shown_treeBelow_zero]
  | succ k ih =>
    cases n with
    | zero => rw [Nat.zero_min, shown_treeBelow_zero, DisplayTree.cut, List.map_nil]
    | succ n =>
      rw [shown_treeBelow_succ, DisplayTree.cut, List.map_map, Nat.succ_min_succ, shown_treeBelow_succ]
      simp only [Function.comp_def, ih]

end AncestryGraph

/-! ## Labels -/

/-- **The name under which a directory is shown:** its whole path at the top and where its last step is no ordinary
    name, else that name alone. -/
inductive NameShown : Path → Nat → String → Prop
  | top (p : Path) : NameShown p 0 p.text
  | ordinary {p : Path} {front : List Component} {name : String} (d : Nat) : p.components = front ++ [.name name] →
      NameShown p (d + 1) name
  | special {p : Path} (d : Nat) : (∀ front name, p.components ≠ front ++ [.name name]) → NameShown p (d + 1) p.text

/-- **The label of a directory:** its name, and for a declared folder its kind in brackets. -/
def IsLabel (style : Style) (declared : PathMap Folder) (p : Path) (d : Nat) (label : String) : Prop :=
  ∃ name, NameShown p d name ∧
    label = match declared.find? p with
      | some folder => name ++ " [" ++ style.shortLabel folder.kind ++ "]"
      | none => name

theorem isLabel_nodeLabel (style : Style) (declared : PathMap Folder) (p : Path) (d : Nat) :
    IsLabel style declared p d (nodeLabel style declared p d) := by
  refine ⟨if d = 0 then p.text else p.fileName?.getD p.text, ?_, ?_⟩
  · cases d with
    | zero => exact .top p
    | succ d =>
      rw [if_neg (Nat.succ_ne_zero d)]
      cases hname : p.fileName? with
      | none => exact .special d (Path.fileName?_eq_none_iff.1 hname)
      | some name =>
        obtain ⟨front, hp⟩ := Path.fileName?_eq_some_iff.1 hname
        exact .ordinary d hp
  · unfold nodeLabel
    cases declared.find? p <;> rfl

/-! ## Limits -/

/-- **The limit leaves so many levels** below the root, as far as the graph has them. -/
structure LimitLeaves (g : AncestryGraph) (root : Path) (limit : Option Nat) (n : Nat) : Prop where
  beyond : ∀ q ∈ g.nodes, ∀ d, q.LiesBelow d root → (limit.any (· < d) = true ↔ n < d)
  last : ∀ q ∈ g.nodes, ∀ d, q.LiesBelow d root → (limit.any (· ≤ d) = true ↔ n ≤ d)

/-- There is a bound on the steps of a graph's directories. -/
theorem AncestryGraph.exists_length_le (g : AncestryGraph) : ∃ n, ∀ q ∈ g.nodes, q.components.length ≤ n :=
  ⟨(g.nodes.map (·.components.length)).max?.getD 0, fun _ hq => List.le_max?_getD_of_mem (List.mem_map.2 ⟨_, hq, rfl⟩)⟩

/-- A limit leaves as many levels as it says. -/
theorem limitLeaves_some (g : AncestryGraph) (root : Path) (n : Nat) : LimitLeaves g root (some n) n where
  beyond q _ d _ := by rw [Option.any_some, decide_eq_true_eq]
  last q _ d _ := by rw [Option.any_some, decide_eq_true_eq]

/-- No limit leaves more levels than there are steps. -/
theorem limitLeaves_none (h : ∀ q ∈ g.nodes, q.components.length < n) : LimitLeaves g root none n := by
  have hshort : ∀ q ∈ g.nodes, ∀ d, q.LiesBelow d root → d < n := by
    intro q hq d hd
    have hlen := (Path.liesBelow_iff.1 hd).2
    have hlt := h q hq
    omega
  constructor
  · intro q hq d hd
    exact iff_of_false Bool.false_ne_true (Nat.lt_asymm (hshort q hq d hd))
  · intro q hq d hd
    exact iff_of_false Bool.false_ne_true (Nat.not_le.2 (hshort q hq d hd))

theorem exists_limitLeaves (g : AncestryGraph) (root : Path) (limit : Option Nat) :
    ∃ n, LimitLeaves g root limit n := by
  cases limit with
  | some n => exact ⟨n, limitLeaves_some g root n⟩
  | none =>
    obtain ⟨n, hn⟩ := g.exists_length_le
    exact ⟨n + 1, limitLeaves_none fun q hq => Nat.lt_succ_of_le (hn q hq)⟩

/-! ## Putting together -/

/-- **The trees that wait are taken out:** those of some different directories, in their order. -/
theorem takeTrees_eq (waiting : PathMap DisplayTree) {paths : List Path}
    (hne : paths.Pairwise fun a b => ¬ (a == b) = true) :
    (takeTrees waiting paths).1 = paths.filterMap waiting.find? ∧
      ∀ q, (takeTrees waiting paths).2.find? q = if paths.any (q == ·) then none else waiting.find? q := by
  induction paths generalizing waiting with
  | nil => exact ⟨rfl, fun q => rfl⟩
  | cons c rest ih =>
    obtain ⟨hc, hrest⟩ := List.pairwise_cons.1 hne
    unfold takeTrees
    split
    · next hnone =>
      obtain ⟨htrees, hleft⟩ := ih waiting hrest
      refine ⟨by rw [htrees, List.filterMap_cons_none hnone], fun q => ?_⟩
      rw [hleft, List.any_cons]
      cases hqc : q == c with
      | true => simp [PathMap.find?_congr hqc, hnone]
      | false => rfl
    · next tree hsome =>
      obtain ⟨htrees, hleft⟩ := ih (waiting.erase c) hrest
      -- taking one tree out leaves those of the other directories
      have hother : ∀ q ∈ rest, (waiting.erase c).find? q = waiting.find? q := by
        intro q hq
        rw [PathMap.find?_erase, if_neg fun he => hc q hq (BEq.symm he)]
      refine ⟨?_, fun q => ?_⟩
      · simp only
        rw [htrees, List.filterMap_congr hother, List.filterMap_cons_some hsome]
      · simp only
        rw [hleft, List.any_cons, PathMap.find?_erase]
        cases q == c <;> simp

variable {waiting : PathMap DisplayTree}

/-- Directories that are too deep change nothing. -/
theorem foldl_addTree_of_deep (hleft : LimitLeaves g root limit n) {nodes : List Path}
    (hdeep : ∀ q ∈ nodes, q ∈ g.nodes ∧ ∃ d, q.LiesBelow d root ∧ n < d) :
    nodes.foldl (addTree g style declared root limit) waiting = waiting := by
  induction nodes with
  | nil => rfl
  | cons q rest ih =>
    obtain ⟨hq, d, hd, hlt⟩ := hdeep q List.mem_cons_self
    have hskip : addTree g style declared root limit waiting q = waiting := by
      unfold addTree
      simp only [hd.nestingDepth?]
      rw [if_pos ((hleft.beyond q hq d hd).2 hlt)]
    rw [List.foldl_cons, hskip]
    exact ih fun q hq => hdeep q (List.mem_cons_of_mem _ hq)

/-- **A directory within the limit** takes the trees of its children away and puts its own down. -/
theorem find?_addTree (hg : g.Linked) (hleft : LimitLeaves g root limit n) (hp : p ∈ g.nodes) (hd : p.LiesBelow d root)
    (hle : d ≤ n) : (addTree g style declared root limit waiting p).find? q =
      if q == p then some (.node (nodeLabel style declared p d) ((g.children p).filterMap waiting.find?))
      else if (g.children p).any (q == ·) then none else waiting.find? q := by
  obtain ⟨htrees, hrest⟩ := takeTrees_eq waiting ((hg.children_sorted p).imp Path.not_beq_of_lt)
  unfold addTree
  simp only [hd.nestingDepth?]
  rw [if_neg fun hbeyond => Nat.not_lt.2 hle ((hleft.beyond p hp d hd).1 hbeyond), PathMap.find?_insert, htrees, hrest]

/-- **What a block leaves in the table:** the tree of its directory, and all else as it was, if nothing waited for
    what is inside the directory. -/
def Assembles (g : AncestryGraph) (style : Style) (declared : PathMap Folder) (limit : Option Nat) (root : Path)
    (n d : Nat) (p : Path) : Prop :=
  ∀ waiting : PathMap DisplayTree, (∀ q, p.Covers q → ¬ (p == q) = true → waiting.find? q = none) →
    ∀ q, ((g.block p).foldl (addTree g style declared root limit) waiting).find? q =
      if q == p then some ((g.treeBelow (n - d) p).shown (nodeLabel style declared) d) else waiting.find? q

/-- **The blocks inside a directory** leave the tree of each. -/
theorem find?_forest {cs : List Path} (hlies : ∀ c ∈ cs, c.LiesIn p)
    (hne : cs.Pairwise fun a b => ¬ (a == b) = true)
    (hcs : ∀ c ∈ cs, Assembles g style declared limit root n d c)
    (hfresh : ∀ c ∈ cs, ∀ q, c.Covers q → ¬ (c == q) = true → waiting.find? q = none) :
    ((cs.flatMap g.block).foldl (addTree g style declared root limit) waiting).find? q =
      ((cs.find? (q == ·)).map fun c => (g.treeBelow (n - d) c).shown (nodeLabel style declared) d).or
        (waiting.find? q) := by
  induction cs generalizing waiting with
  | nil => rfl
  | cons c rest ih =>
    obtain ⟨hc, hrest⟩ := List.pairwise_cons.1 hne
    have hfirst := hcs c List.mem_cons_self waiting (hfresh c List.mem_cons_self)
    -- the tree of the first one hangs nowhere inside the others
    have hfresh' : ∀ c' ∈ rest, ∀ q, c'.Covers q → ¬ (c' == q) = true →
        ((g.block c).foldl (addTree g style declared root limit) waiting).find? q = none := by
      intro c' hc' q hcov hne'
      rw [hfirst, if_neg fun hqc => ?_]
      · exact hfresh c' (List.mem_cons_of_mem _ hc') q hcov hne'
      · refine hc c' hc' (Path.LiesIn.beq_of_covers (hlies c List.mem_cons_self) (hlies c' (List.mem_cons_of_mem _ hc'))
          (.of_beq (BEq.symm hqc)) hcov)
    rw [List.flatMap_cons, List.foldl_append, ih (fun c hc => hlies c (List.mem_cons_of_mem _ hc)) hrest
      (fun c hc => hcs c (List.mem_cons_of_mem _ hc)) hfresh', hfirst, List.find?_cons]
    cases hqc : q == c with
    | false => rfl
    | true =>
      have hnone : rest.find? (q == ·) = none := List.find?_eq_none.2 fun c' hc' hqc' =>
        hc c' hc' (BEq.trans (BEq.symm hqc) hqc')
      rw [hnone]
      rfl

/-- **When a directory's turn comes,** the trees of its children wait if they are within the limit, and nothing else has
    changed. -/
theorem find?_inside (hg : g.Linked) (hleft : LimitLeaves g root limit n) (hd : p.LiesBelow d root) (hle : d ≤ n)
    (hcs : d < n → ∀ c ∈ g.childrenByAge p, Assembles g style declared limit root n (d + 1) c)
    (hfresh : ∀ q, p.Covers q → ¬ (p == q) = true → waiting.find? q = none) {waiting' : PathMap DisplayTree}
    (hw : waiting' = ((g.childrenByAge p).flatMap g.block).foldl (addTree g style declared root limit) waiting) :
    (g.children p).filterMap waiting'.find? =
        (if d < n then (g.children p).map fun c =>
          (g.treeBelow (n - (d + 1)) c).shown (nodeLabel style declared) (d + 1) else []) ∧
      ∀ q, (∀ c ∈ g.children p, ¬ (q == c) = true) → waiting'.find? q = waiting.find? q := by
  have hlies : ∀ c ∈ g.childrenByAge p, c.LiesIn p := fun c hc => (hg.mem_childrenByAge.1 hc).2
  have hsame : ∀ c, c ∈ g.children p ↔ c ∈ g.childrenByAge p := fun c => hg.mem_children.trans hg.mem_childrenByAge.symm
  rcases Nat.lt_or_eq_of_le hle with hlt | rfl
  · have hforest : ∀ q, waiting'.find? q = (((g.childrenByAge p).find? (q == ·)).map fun c =>
        (g.treeBelow (n - (d + 1)) c).shown (nodeLabel style declared) (d + 1)).or (waiting.find? q) := by
      intro q
      rw [hw]
      refine find?_forest hlies (hg.childrenByAge_distinct p) (hcs hlt) fun c hc q hcov _ => ?_
      refine hfresh q ((hlies c hc).covers.trans hcov) fun hpq => ?_
      exact (hlies c hc).not_covers (hcov.trans (.of_beq (BEq.symm hpq)))
    rw [if_pos hlt]
    constructor
    · refine List.filterMap_eq_map_iff_forall_eq_some.2 fun c hc => ?_
      -- a child is found as the graph spells it
      obtain ⟨c', hfound⟩ := Option.isSome_iff_exists.1
        (List.find?_isSome.2 ⟨c, (hsame c).1 hc, BEq.rfl⟩ : ((g.childrenByAge p).find? (c == ·)).isSome)
      have hmem := (hg.mem_childrenByAge.1 (List.mem_of_find?_eq_some hfound)).1
      have hcc' : (c == c') = true := List.find?_some (p := fun c' => c == c') hfound
      obtain rfl := hg.toSound.eq_of_beq (hg.mem_children.1 hc).1 hmem hcc'
      rw [hforest, hfound]
      rfl
    · intro q hq
      have hnone : (g.childrenByAge p).find? (q == ·) = none := List.find?_eq_none.2 fun c hc => hq c ((hsame c).2 hc)
      rw [hforest, hnone]
      rfl
  · have hdeep : waiting' = waiting := by
      rw [hw]
      refine foldl_addTree_of_deep hleft fun q hq => ?_
      obtain ⟨c, hc, hqc⟩ := List.mem_flatMap.1 hq
      obtain ⟨hqmem, hcq⟩ := (hg.mem_block c (hg.mem_childrenByAge.1 hc).1 q).1 hqc
      obtain ⟨hcov, hlen⟩ := Path.liesBelow_iff.1 hd
      obtain ⟨k, hk⟩ := (hcov.trans ((hlies c hc).covers.trans hcq)).exists_liesBelow
      have hstep := (hlies c hc).length_eq
      have hbelow := hcq.length_le
      have hlen' := (Path.liesBelow_iff.1 hk).2
      exact ⟨hqmem, k, hk, by omega⟩
    rw [if_neg (Nat.lt_irrefl d), hdeep]
    refine ⟨List.filterMap_eq_nil_iff.2 fun c hc => ?_, fun q _ => rfl⟩
    exact hfresh c (hg.mem_children.1 hc).2.covers (hg.mem_children.1 hc).2.not_beq

/-- **Every block within the limit** leaves the tree of its directory. -/
theorem find?_block (hg : g.Linked) (hleft : LimitLeaves g root limit n) :
    ∀ p ∈ g.nodes, ∀ d, p.LiesBelow d root → d ≤ n → Assembles g style declared limit root n d p := by
  refine hg.inside_induction fun p hp ih d hd hle => ?_
  intro waiting hfresh q
  obtain ⟨htrees, hrest⟩ := find?_inside hg hleft hd hle
    (fun hlt c hc => ih c hc (d + 1) (hd.inside (hg.mem_childrenByAge.1 hc).2) hlt) hfresh rfl
  rw [hg.block_eq, List.foldl_append, List.foldl_cons, List.foldl_nil, find?_addTree hg hleft hp hd hle, htrees,
    ← AncestryGraph.shown_treeBelow hle]
  cases hqp : q == p with
  | true => rfl
  | false =>
    -- a tree that was taken away had not been there before either
    by_cases hany : (g.children p).any (q == ·) = true
    · obtain ⟨c, hc, hqc⟩ := List.any_eq_true.1 hany
      have hlies : q.LiesIn p := (Path.LiesIn.congr hqc BEq.rfl).2 (hg.mem_children.1 hc).2
      rw [if_pos hany, hfresh q hlies.covers hlies.not_beq]
    · rw [if_neg hany, hrest q fun c hc hqc => hany (List.any_eq_true.2 ⟨c, hc, hqc⟩)]

/-- **A drawing is the tree below its root,** as many levels of it as the limit leaves. -/
theorem displayTree_eq (hg : g.Linked) (hroot : root ∈ g.nodes) (hleft : LimitLeaves g root limit n) :
    displayTree g style declared limit root = (g.treeBelow n root).shown (nodeLabel style declared) 0 := by
  have hzero : root.LiesBelow 0 root := Path.liesBelow_zero.2 BEq.rfl
  have hblock : Assembles g style declared limit root n 0 root :=
    find?_block hg hleft root hroot 0 hzero (Nat.zero_le n)
  rw [displayTree, hg.postOrder_eq_block hroot, hblock .empty (fun _ _ _ => rfl) root, if_pos BEq.rfl, Nat.sub_zero,
    Option.getD_some]

/-! ## Pruning -/

/-- **A drawing with a limit is the whole drawing cut at that limit.** For a root of a graph, or any directory of it,
    the drawing is that of one tree of directories: the root is at the top, every directory of the graph within the
    limit is in it at its level and no other, none of them twice, and directly below each stand all its children in
    path order, or nothing at the limit. A directory is labelled with its whole path at the top and with its last
    step below, if that is an ordinary name, and with its kind exactly if it is declared. -/
theorem displayTree_is_pruning (paths : List Path) (style : Style) (declared : PathMap Folder)
    (hroot : root ∈ (AncestryGraph.ofList paths).nodes) :
    let g := AncestryGraph.ofList paths
    (∀ limit : Option Nat, ∃ (t : DirectoryTree) (label : Path → Nat → String),
      displayTree g style declared limit root = t.shown label 0 ∧
      (∀ p d, IsLabel style declared p d (label p d)) ∧
      t.place = root ∧
      (∀ d p, (∃ s, (d, s) ∈ t.parts 0 ∧ s.place = p) ↔
        p ∈ g.nodes ∧ p.LiesBelow d root ∧ limit.any (· < d) = false) ∧
      ((t.parts 0).Pairwise fun a b => ¬ (a.2.place == b.2.place) = true) ∧
      ∀ d s, (d, s) ∈ t.parts 0 → (s.inside.map (·.place)).Pairwise (· < ·) ∧
        s.inside.map (·.place) = if limit.any (· ≤ d) then [] else g.children s.place) ∧
    ∀ depth, displayTree g style declared (some depth) root =
      (displayTree g style declared none root).cut depth := by
  intro g
  have hg : g.Linked := AncestryGraph.linked_ofList paths
  obtain ⟨top, htop⟩ := g.exists_length_le
  constructor
  · intro limit
    obtain ⟨n, hleft⟩ := exists_limitLeaves g root limit
    have hmem : ∀ d s, (d, s) ∈ (g.treeBelow n root).parts 0 ↔
        ∃ i ≤ n, d = 0 + i ∧ ∃ q ∈ g.nodes, q.LiesBelow i root ∧ s = g.treeBelow (n - i) q :=
      fun d s => hg.mem_parts_treeBelow hroot
    refine ⟨g.treeBelow n root, nodeLabel style declared, displayTree_eq hg hroot hleft,
      isLabel_nodeLabel style declared, AncestryGraph.place_treeBelow, ?_, hg.parts_treeBelow_distinct hroot, ?_⟩
    · intro d p
      constructor
      · rintro ⟨s, hs, rfl⟩
        obtain ⟨i, hi, hd, q, hq, hbelow, rfl⟩ := (hmem d s).1 hs
        obtain rfl : d = i := by omega
        rw [AncestryGraph.place_treeBelow, ← Bool.not_eq_true, hleft.beyond q hq d hbelow]
        exact ⟨hq, hbelow, Nat.not_lt.2 hi⟩
      · rintro ⟨hp, hbelow, hwithin⟩
        rw [← Bool.not_eq_true, hleft.beyond p hp d hbelow, Nat.not_lt] at hwithin
        exact ⟨g.treeBelow (n - d) p, (hmem d _).2 ⟨d, hwithin, by omega, p, hp, hbelow, rfl⟩,
          AncestryGraph.place_treeBelow⟩
    · intro d s hs
      obtain ⟨i, hi, hd, q, hq, hbelow, rfl⟩ := (hmem d s).1 hs
      obtain rfl : d = i := by omega
      have hinside := AncestryGraph.inside_treeBelow (g := g) (n := n - d) (p := q)
      have hlast : (limit.any (· ≤ d) = true) ↔ n - d = 0 := by rw [hleft.last q hq d hbelow, Nat.sub_eq_zero_iff_le]
      rw [AncestryGraph.place_treeBelow, hinside]
      by_cases hend : n - d = 0
      · rw [if_pos hend, if_pos (hlast.2 hend)]
        exact ⟨.nil, rfl⟩
      · rw [if_neg hend, if_neg fun h => hend (hlast.1 h)]
        exact ⟨hg.children_sorted q, rfl⟩
  · intro depth
    -- more levels than the graph has steps are all levels
    have hall : LimitLeaves g root none (max (top + 1) depth) :=
      limitLeaves_none fun q hq => Nat.lt_of_lt_of_le (Nat.lt_succ_of_le (htop q hq)) (Nat.le_max_left _ _)
    rw [displayTree_eq hg hroot (limitLeaves_some g root depth), displayTree_eq hg hroot hall,
      AncestryGraph.cut_shown_treeBelow, Nat.min_eq_right (Nat.le_max_right _ _)]

/-- Two branches, one of them a level deeper than the other. -/
def unevenBranches : List Path := [.ofText "src/b/c", .ofText "src/a"]

theorem displayTree_is_pruning_unevenBranches :
    let g := AncestryGraph.ofList unevenBranches
    let drawn := fun limit => displayTree g ⟨false⟩ .empty limit (.ofText "src")
    .ofText "src" ∈ g.nodes ∧ drawn (some 1) = (drawn none).cut 1 ∧
      ∃ (t : DirectoryTree) (label : Path → Nat → String), drawn (some 1) = t.shown label 0 ∧
        ∃ s : DirectoryTree, (1, s) ∈ t.parts 0 ∧ s.place = .ofText "src/b" ∧ s.inside.map (·.place) = [] := by
  intro g drawn
  have hnode : ∀ text, g.nodes.any (·.text == text) = true → .ofText text ∈ g.nodes := by
    intro text h
    obtain ⟨q, hq, htext⟩ := List.any_eq_true.1 h
    obtain rfl : q = .ofText text := Path.ext_text (by simpa using htext)
    exact hq
  have hroot : .ofText "src" ∈ g.nodes := hnode "src" (by decide +kernel)
  have hb : .ofText "src/b" ∈ g.nodes := hnode "src/b" (by decide +kernel)
  obtain ⟨hdrawn, hcut⟩ := displayTree_is_pruning unevenBranches ⟨false⟩ .empty hroot
  obtain ⟨t, label, ht, -, -, hlevels, -, hinside⟩ := hdrawn (some 1)
  have hbelow : (Path.ofText "src/b").LiesBelow 1 (.ofText "src") :=
    Path.liesBelow_iff.2 ⟨Path.covers_iff.2 (by decide), by decide⟩
  obtain ⟨s, hs, hplace⟩ := (hlevels 1 (.ofText "src/b")).2 ⟨hb, hbelow, rfl⟩
  exact ⟨hroot, hcut 1, t, label, ht, s, hs, hplace, (hinside 1 s hs).2⟩

end RootFold
