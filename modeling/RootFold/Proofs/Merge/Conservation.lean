import RootFold.Proofs.Merge.Refinement

/-!
# `RootFold.Proofs.Merge.Conservation` — nothing is lost by a walk, even by one that fails

An error can strike when some trees were merged already, and nothing is taken back then. What holds after every
step therefore holds after every walk: folders are held at their own paths, no member is lost or added, every path
that was held is held still or lies under one that is, and outside the walked tree nothing has changed. This needs
no check of the folders beforehand. A merged outcome says more: its folder is all that is left in the tree.

## Contents
- **Conservation.** `Kept`, along one step (`Kept.joined`) and along several (`Kept.trans`).
- **Single folders.** `HeldAlone`: what a merged outcome says about the directory's tree. `ChildrenWait` hands it on
  to the directory above, by `kept_of_collapseStep`.
- **Runs.** `Leaves`, what a run leaves whether it fails or not; `forest_conserves`, `block_conserves`.
- **Walks.** `Accumulator.Reachable`, `PassM.after`, `walk_conserves`.
-/

namespace RootFold

variable {ns : NamespaceCache} {g : AncestryGraph} {p q c n root node : Path} {cs : List Path} {outcomes : List Outcome}
  {acc acc' acc₁ acc₂ : Accumulator} {o : Outcome} {f : Folder} {folders : List Folder} {finished finished' : Finished}
  {s s' : Pass} {β β' : Type} {region region' : Path → Prop}

/-! ## Conservation -/

/-- Some folder that is held has the member. -/
def HasMember (acc : Accumulator) (x : Path) : Prop := ∃ f ∈ acc.values, f.members.contains x = true

/-- **Nothing is lost,** and nothing has changed outside a region. -/
structure Kept (region : Path → Prop) (acc acc' : Accumulator) : Prop where
  keyed : acc'.KeyedByPath
  members : ∀ x, HasMember acc' x ↔ HasMember acc x
  covered : ∀ q, acc.contains q = true → ∃ q', acc'.contains q' = true ∧ q'.Covers q
  frame : ∀ q, ¬ region q → acc'.row? q = acc.row? q

namespace Kept

theorem refl (hkeyed : acc.KeyedByPath) : Kept region acc acc :=
  ⟨hkeyed, fun _ => Iff.rfl, fun q hq => ⟨q, hq, .refl q⟩, fun _ _ => rfl⟩

theorem trans (h₁ : Kept region acc acc₁) (h₂ : Kept region acc₁ acc₂) : Kept region acc acc₂ where
  keyed := h₂.keyed
  members x := (h₂.members x).trans (h₁.members x)
  covered q hq := by
    obtain ⟨q₁, hheld₁, hcov₁⟩ := h₁.covered q hq
    obtain ⟨q₂, hheld₂, hcov₂⟩ := h₂.covered q₁ hheld₁
    exact ⟨q₂, hheld₂, hcov₂.trans hcov₁⟩
  frame q hq := (h₂.frame q hq).trans (h₁.frame q hq)

theorem mono (h : Kept region acc acc') (hsub : ∀ q, region q → region' q) : Kept region' acc acc' :=
  ⟨h.keyed, h.members, h.covered, fun q hq => h.frame q fun hr => hq (hsub q hr)⟩

theorem find? (h : Kept region acc acc') (hq : ¬ region q) : acc'.find? q = acc.find? q := by
  rw [PathMap.find?_eq_map_row?, PathMap.find?_eq_map_row?, h.frame q hq]

end Kept

theorem hasMember_iff : HasMember acc q ↔ ∃ p f, acc.find? p = some f ∧ f.members.contains q = true := by
  constructor
  · rintro ⟨f, hf, hq⟩
    obtain ⟨p, hp⟩ := PathMap.mem_values_iff.1 hf
    exact ⟨p, f, hp, hq⟩
  · rintro ⟨p, f, hp, hq⟩
    exact ⟨f, PathMap.mem_values_iff.2 ⟨p, hp⟩, hq⟩

/-- **A folder with the members of those that it replaces** leaves the members of all folders together as they are. -/
theorem hasMember_replace {first : Folder} {rest : List Folder} (hfree : acc.contains node = false)
    (hheld : ∀ f ∈ first :: rest, acc.find? f.path = some f) (x : Path) :
    HasMember (acc.replace (first :: rest) (first.joined node (first :: rest))) x ↔ HasMember acc x := by
  have hgather := (PathSet.gatheredFrom_gather (first :: rest)).contains x
  rw [hasMember_iff, hasMember_iff]
  constructor
  · rintro ⟨q, f, hfind, hx⟩
    rw [find?_replace] at hfind
    split at hfind
    · obtain rfl := Option.some.inj hfind
      obtain ⟨child, hchild, hxc⟩ := hgather.1 hx
      exact ⟨child.path, child, hheld child hchild, hxc⟩
    · split at hfind
      · exact absurd hfind (by simp)
      · exact ⟨q, f, hfind, hx⟩
  · rintro ⟨q, f, hfind, hx⟩
    by_cases hany : ∃ child ∈ first :: rest, (q == child.path) = true
    · -- the folder was replaced, so its members are among those that were gathered
      obtain ⟨child, hchild, hqc⟩ := hany
      rw [PathMap.find?_congr hqc, hheld child hchild] at hfind
      obtain rfl := Option.some.inj hfind
      refine ⟨node, first.joined node (first :: rest), ?_, hgather.2 ⟨child, hchild, hx⟩⟩
      rw [find?_replace, Folder.path_joined, if_pos BEq.rfl]
    · have hne : ¬ (q == node) = true := by
        intro he
        rw [← PathMap.contains_congr he, PathMap.contains, hfind] at hfree
        exact absurd hfree (by simp)
      refine ⟨q, f, ?_, hx⟩
      rw [find?_replace, Folder.path_joined, if_neg hne, if_neg fun h => hany (List.any_eq_true.1 h), hfind]

/-- **One folder takes the place of those directly inside a directory** where none is held. -/
theorem Kept.joined {first : Folder} {rest : List Folder} (hkeyed : acc.KeyedByPath)
    (hfree : acc.contains node = false) (hheld : ∀ f ∈ first :: rest, acc.find? f.path = some f)
    (hin : ∀ f ∈ first :: rest, f.path.LiesIn node) (hnode : ∀ q, (q == node) = true → region q)
    (hfolders : ∀ f ∈ first :: rest, ∀ q, (q == f.path) = true → region q) :
    Kept region acc (acc.replace (first :: rest) (first.joined node (first :: rest))) where
  keyed := hkeyed.replace hfree
  members := hasMember_replace hfree hheld
  covered q hq := by
    by_cases hany : ∃ child ∈ first :: rest, (q == child.path) = true
    · obtain ⟨child, hchild, hqc⟩ := hany
      refine ⟨node, ?_, (hin child hchild).covers.trans (.of_beq (BEq.symm hqc))⟩
      rw [PathMap.contains, find?_replace, Folder.path_joined, if_pos BEq.rfl]
      rfl
    · refine ⟨q, ?_, .refl q⟩
      rw [PathMap.contains, find?_replace]
      split
      · rfl
      · rw [if_neg fun h => hany (List.any_eq_true.1 h)]
        exact hq
  frame q hq := by
    rw [row?_replace hfree, Folder.path_joined, if_neg fun he => hq (hnode q he), if_neg]
    intro hany
    obtain ⟨child, hchild, hqc⟩ := List.any_eq_true.1 hany
    exact hq (hfolders child hchild q hqc)

/-! ## Single folders -/

/-- The directories of a graph that one of them covers. -/
def InTree (g : AncestryGraph) (p q : Path) : Prop := g.contains q = true ∧ p.Covers q

/-- **If the outcome is a folder,** it is held at the directory, and nothing else is held at any directory below. -/
def HeldAlone (g : AncestryGraph) (acc : Accumulator) (p : Path) (o : Outcome) : Prop :=
  ∀ f, o = .merged f → (f.path == p) = true ∧ acc.find? p = some f ∧
    ∀ q, InTree g p q → ¬ (p == q) = true → acc.contains q = false

theorem HeldAlone.blocked : HeldAlone g acc p .blocked := nofun

theorem HeldAlone.of_frame (h : HeldAlone g acc p o) (hframe : ∀ q, p.Covers q → acc'.find? q = acc.find? q) :
    HeldAlone g acc' p o := by
  intro f hf
  obtain ⟨hpath, hfind, hbelow⟩ := h f hf
  refine ⟨hpath, (hframe p (.refl p)).trans hfind, fun q hq hne => ?_⟩
  rw [PathMap.contains, hframe q hq.2]
  exact hbelow q hq hne

/-- **The children's folders wait** for a directory: each is held alone in its tree. -/
structure ChildrenWait (g : AncestryGraph) (acc : Accumulator) (p : Path) (outcomes : List Outcome) : Prop where
  sound : ∀ o ∈ outcomes, ∃ c ∈ g.children p, HeldAlone g acc c o
  complete : ∀ c ∈ g.children p, ∃ o ∈ outcomes, HeldAlone g acc c o

theorem ChildrenWait.liesIn (hg : g.Linked) (h : ChildrenWait g acc p outcomes) :
    ∀ f, .merged f ∈ outcomes → f.path.LiesIn p := by
  intro f hf
  obtain ⟨c, hc, halone⟩ := h.sound _ hf
  exact (Path.LiesIn.congr (halone f rfl).1 BEq.rfl).2 (hg.mem_children.1 hc).2

/-- Without outcomes there are no children, and so nothing is below. -/
theorem ChildrenWait.beq_of_nil (hg : g.Linked) (h : ChildrenWait g acc p []) (hq : InTree g p q) : (p == q) = true := by
  rcases hg.eq_or_child_covers hq.1 hq.2 with he | ⟨c, hc, -⟩
  · exact he
  · obtain ⟨o, ho, -⟩ := h.complete c (hg.mem_children.2 hc)
    exact absurd ho List.not_mem_nil

/-- **Below a directory whose children's folders wait** nothing is held but these. -/
theorem ChildrenWait.contains_eq_false (hg : g.Linked) (h : ChildrenWait g acc p (folders.map .merged))
    (hq : InTree g p q) (hne : ¬ (p == q) = true) (hnot : ¬ folders.any (fun f => q == f.path) = true) :
    acc.contains q = false := by
  rcases hg.eq_or_child_covers hq.1 hq.2 with he | ⟨c, hc, hcq⟩
  · exact absurd he hne
  · obtain ⟨o, ho, halone⟩ := h.complete c (hg.mem_children.2 hc)
    obtain ⟨child, hchild, rfl⟩ := List.mem_map.1 ho
    obtain ⟨hpath, -, hbelow⟩ := halone child rfl
    have hcne : ¬ (c == q) = true := fun he =>
      hnot (List.any_eq_true.2 ⟨child, hchild, BEq.symm (BEq.trans hpath he)⟩)
    exact hbelow q ⟨hq.1, hcq⟩ hcne

/-- **The folder in their place** is held alone. -/
theorem ChildrenWait.heldAlone_joined {first : Folder} {rest : List Folder} (hg : g.Linked)
    (h : ChildrenWait g acc p ((first :: rest).map .merged)) :
    HeldAlone g (acc.replace (first :: rest) (first.joined p (first :: rest))) p
      (.merged (first.joined p (first :: rest))) := by
  intro f hf
  obtain rfl := Outcome.merged.inj hf
  refine ⟨BEq.rfl, ?_, fun q hq hne => ?_⟩
  · rw [find?_replace, Folder.path_joined, if_pos BEq.rfl]
  · have hqp : ¬ (q == p) = true := fun he => hne (BEq.symm he)
    rw [PathMap.contains, find?_replace, Folder.path_joined, if_neg hqp]
    split
    · rfl
    · next hnot => exact h.contains_eq_false hg hq hne hnot

/-- **The rule keeps everything,** and its folder is alone in the directory's tree. -/
theorem kept_of_collapseStep (hg : g.Linked) (hp : p ∈ g.nodes) (hkeyed : acc.KeyedByPath)
    (hwait : ChildrenWait g acc p outcomes) (h : CollapseStep ns p outcomes acc o acc') :
    Kept (InTree g p) acc acc' ∧ HeldAlone g acc' p o := by
  cases h with
  | blockedBelow => exact ⟨.refl hkeyed, .blocked⟩
  | refused => exact ⟨.refl hkeyed, .blocked⟩
  | leaf hfind =>
    refine ⟨.refl hkeyed, fun f hf => ?_⟩
    obtain rfl := Outcome.merged.inj hf
    exact ⟨hkeyed.path_of_find? hfind, hfind, fun q hq hne => absurd (hwait.beq_of_nil hg hq) hne⟩
  | @joined _ first rest hfree _ =>
    have hin : ∀ f ∈ first :: rest, f.path.LiesIn p := fun f hf => hwait.liesIn hg f (List.mem_map_of_mem hf)
    have hheld : ∀ f ∈ first :: rest, acc.find? f.path = some f := by
      intro f hf
      obtain ⟨c, -, halone⟩ := hwait.sound _ (List.mem_map_of_mem hf)
      obtain ⟨hpath, hfind, -⟩ := halone f rfl
      rw [PathMap.find?_congr hpath, hfind]
    have hchild : ∀ f ∈ first :: rest, g.contains f.path = true := by
      intro f hf
      obtain ⟨c, hc, halone⟩ := hwait.sound _ (List.mem_map_of_mem hf)
      rw [AncestryGraph.contains_congr (halone f rfl).1]
      exact AncestryGraph.contains_of_mem (hg.mem_children.1 hc).1
    refine ⟨.joined hkeyed hfree hheld hin (fun q hq => ?_) fun f hf q hq => ?_, hwait.heldAlone_joined hg⟩
    · exact ⟨AncestryGraph.contains_congr hq ▸ AncestryGraph.contains_of_mem hp, .of_beq (BEq.symm hq)⟩
    · exact ⟨AncestryGraph.contains_congr hq ▸ hchild f hf, (hin f hf).covers.trans (.of_beq (BEq.symm hq))⟩

/-! ## Runs -/

/-- **What a run leaves:** a condition on the folders that holds whether it fails or not, and another one on its result
    if it does not. -/
inductive Leaves (always : Accumulator → Prop) (result : β → Accumulator → Prop) :
    EStateM.Result Error Pass β → Prop
  | ok {b : β} {s : Pass} : always s.accumulator → result b s.accumulator → Leaves always result (.ok b s)
  | error {e : Error} {s : Pass} : always s.accumulator → Leaves always result (.error e s)

/-- Runs one after the other; what the first leaves must be enough when it fails. -/
theorem Leaves.bind {always always' : Accumulator → Prop} {result : β → Accumulator → Prop}
    {result' : β' → Accumulator → Prop} {x : PassM β} {f : β → PassM β'} (hx : Leaves always result (x s))
    (hfail : ∀ acc, always acc → always' acc)
    (hf : ∀ b s', always s'.accumulator → result b s'.accumulator → Leaves always' result' (f b s')) :
    Leaves always' result' ((x >>= f) s) := by
  generalize hr : x s = run at hx
  cases hx with
  | ok halways hresult =>
    rw [bind_ok hr]
    exact hf _ _ halways hresult
  | error halways =>
    rw [bind_error hr]
    exact .error (hfail _ halways)

/-- **Outcomes have come to wait** for the directory above some trees, and no others have changed. -/
structure Decisions (g : AncestryGraph) (cs : List Path) (finished finished' : Finished) (acc : Accumulator) :
    Prop where
  waiting : ∀ c ∈ cs, ∃ o, finished'.find? c = some o ∧ HeldAlone g acc c o
  frame : ∀ q, (∀ c ∈ cs, ¬ c.Covers q) → finished'.find? q = finished.find? q

/-- **A list of directories conserves** what is held in some trees. -/
def Conserves (g : AncestryGraph) (ns : NamespaceCache) (cs nodes : List Path) : Prop :=
  ∀ (finished : Finished) (s : Pass), s.accumulator.KeyedByPath →
    Leaves (Kept (fun q => ∃ c ∈ cs, InTree g c q) s.accumulator)
      (fun finished' acc => Decisions g cs finished finished' acc) (nodes.foldlM (stepNode g ns) finished s)

/-- **Trees that are apart** are conserved one after the other. -/
theorem forest_conserves {block : Path → List Path} (hap : cs.Pairwise Apart)
    (h : ∀ c ∈ cs, Conserves g ns [c] (block c)) : Conserves g ns cs (cs.flatMap block) := by
  induction cs with
  | nil =>
    intro finished s hkeyed
    exact .ok (.refl hkeyed) ⟨nofun, fun _ _ => rfl⟩
  | cons c rest ih =>
    obtain ⟨hfirst, hrest⟩ := List.pairwise_cons.1 hap
    intro finished s hkeyed
    have hleft : ∀ q, (∃ d ∈ [c], InTree g d q) → ∃ d ∈ c :: rest, InTree g d q := by
      rintro q ⟨d, hd, hdq⟩
      exact ⟨d, by simp [List.mem_singleton.1 hd], hdq⟩
    have hright : ∀ q, (∃ d ∈ rest, InTree g d q) → ∃ d ∈ c :: rest, InTree g d q := by
      rintro q ⟨d, hd, hdq⟩
      exact ⟨d, List.mem_cons_of_mem c hd, hdq⟩
    rw [List.flatMap_cons, List.foldlM_append]
    refine (h c (by simp) finished s hkeyed).bind (fun _ hkept => hkept.mono hleft) fun finished₁ s₁ hkept₁ hdec₁ => ?_
    have hothers := ih hrest (fun d hd => h d (by simp [hd])) finished₁ s₁ hkept₁.keyed
    rw [← bind_pure ((rest.flatMap block).foldlM (stepNode g ns) finished₁)]
    refine hothers.bind (fun _ hkept₂ => (hkept₁.mono hleft).trans (hkept₂.mono hright))
      fun finished₂ s₂ hkept₂ hdec₂ => ?_
    refine .ok ((hkept₁.mono hleft).trans (hkept₂.mono hright)) ⟨fun d hd => ?_, fun q hq => ?_⟩
    · rcases List.mem_cons.1 hd with rfl | hd
      · -- the later trees have left the first one as it was
        obtain ⟨o, ho, halone⟩ := hdec₁.waiting d (by simp)
        refine ⟨o, by rw [hdec₂.frame d (not_covers_of_apart hfirst (.refl d)), ho], halone.of_frame fun q hdq => ?_⟩
        apply hkept₂.find?
        rintro ⟨d', hd', hin⟩
        exact hfirst d' hd' q hdq hin.2
      · exact hdec₂.waiting d hd
    · obtain ⟨hcq, hq'⟩ := List.forall_mem_cons.1 hq
      rw [hdec₂.frame q hq', hdec₁.frame q (List.forall_mem_singleton.2 hcq)]

/-- **One step conserves** the tree of its directory, also when it fails. -/
theorem stepNode_conserves (hg : g.Linked) (hp : p ∈ g.nodes) {finished₁ : Finished}
    (hkeyed : s.accumulator.KeyedByPath)
    (hdec : Decisions g (g.children p) finished finished₁ s.accumulator) :
    Leaves (Kept (InTree g p) s.accumulator) (fun finished' acc => Decisions g [p] finished finished' acc)
      (stepNode g ns finished₁ p s) := by
  have hlies : ∀ c ∈ g.children p, c.LiesIn p := fun c hc => (hg.mem_children.1 hc).2
  have hdistinct : (g.children p).Pairwise fun a b => ¬ (a == b) = true :=
    (hg.children_sorted p).imp Path.not_beq_of_lt
  obtain ⟨outcomes, left, htake, hmap, hleft⟩ := exists_takeOutcomes hdistinct fun c hc =>
    (hdec.waiting c hc).imp fun o ho => ho.1
  have hwait : ChildrenWait g s.accumulator p outcomes := by
    refine ⟨fun o ho => ?_, fun c hc => ?_⟩
    · have hmem : some o ∈ (g.children p).map finished₁.find? := hmap ▸ List.mem_map_of_mem ho
      obtain ⟨c, hc, hco⟩ := List.mem_map.1 hmem
      obtain ⟨o', ho', halone⟩ := hdec.waiting c hc
      obtain rfl : o' = o := Option.some.inj (ho'.symm.trans hco)
      exact ⟨c, hc, halone⟩
    · obtain ⟨o, ho, halone⟩ := hdec.waiting c hc
      have hmem : finished₁.find? c ∈ outcomes.map some := hmap ▸ List.mem_map_of_mem hc
      obtain ⟨o', ho', heq⟩ := List.mem_map.1 hmem
      obtain rfl : o' = o := Option.some.inj (heq.trans ho)
      exact ⟨o', ho', halone⟩
  rw [stepNode, htake, bind_ok (PassM.ofExcept_ok _ s)]
  simp only
  rcases mergeNode_cases (hwait.liesIn hg) s with ⟨o, acc, notes, hstep, heq⟩ | ⟨e, -, heq⟩
  · obtain ⟨hkept, halone⟩ := kept_of_collapseStep hg hp hkeyed hwait hstep
    rw [bind_ok heq]
    refine .ok hkept ⟨fun c hc => ?_, fun q hq => ?_⟩
    · obtain rfl := List.mem_singleton.1 hc
      exact ⟨o, by rw [PathMap.find?_insert, if_pos BEq.rfl], halone⟩
    · have hpq : ¬ p.Covers q := hq p (by simp)
      have hfar : ∀ c ∈ g.children p, ¬ c.Covers q := fun c hc hcq => hpq ((hlies c hc).covers.trans hcq)
      rw [PathMap.find?_insert, if_neg fun he => hpq (.of_beq (BEq.symm he)), hleft, if_neg, hdec.frame q hfar]
      intro hany
      obtain ⟨c, hc, hqc⟩ := List.any_eq_true.1 hany
      exact hfar c hc (.of_beq (BEq.symm hqc))
  · rw [bind_error heq]
    exact .error (.refl hkeyed)

/-- **A block conserves** the tree of its directory. -/
theorem block_conserves (hg : g.Linked) (ns : NamespaceCache) : ∀ p ∈ g.nodes, Conserves g ns [p] (g.block p) := by
  refine hg.inside_induction fun p hp ih => ?_
  intro finished s hkeyed
  have hmem : ∀ c, c ∈ g.children p ↔ c ∈ g.childrenByAge p := fun c => AncestryGraph.mem_inPathOrder
  have hlies : ∀ c ∈ g.childrenByAge p, c.LiesIn p := fun c hc => (hg.mem_childrenByAge.1 hc).2
  have hap := apart_of_liesIn hlies (hg.childrenByAge_distinct p)
  have hinside : ∀ q, (∃ c ∈ g.childrenByAge p, InTree g c q) → ∃ c ∈ [p], InTree g c q := by
    rintro q ⟨c, hc, hcq⟩
    exact ⟨p, by simp, hcq.1, (hlies c hc).covers.trans hcq.2⟩
  have hself : ∀ q, InTree g p q → ∃ c ∈ [p], InTree g c q := fun q hq => ⟨p, by simp, hq⟩
  rw [hg.block_eq, List.foldlM_append]
  refine (forest_conserves hap ih finished s hkeyed).bind (fun _ hkept => hkept.mono hinside)
    fun finished₁ s₁ hkept₁ hdec₁ => ?_
  have hchildren : Decisions g (g.children p) finished finished₁ s₁.accumulator :=
    ⟨fun c hc => hdec₁.waiting c ((hmem c).1 hc), fun q hq => hdec₁.frame q fun c hc => hq c ((hmem c).2 hc)⟩
  rw [List.foldlM_cons]
  simp only [List.foldlM_nil]
  refine (stepNode_conserves hg hp hkept₁.keyed hchildren).bind
    (fun _ hkept₂ => (hkept₁.mono hinside).trans (hkept₂.mono hself)) fun finished₂ s₂ hkept₂ hdec₂ => ?_
  exact .ok ((hkept₁.mono hinside).trans (hkept₂.mono hself)) hdec₂

/-! ## Walks -/

/-- The state that a part of a pass leaves, whether it fails or not. -/
def PassM.after (x : PassM β) (s : Pass) : Pass :=
  match x s with
  | .ok _ s' => s'
  | .error _ s' => s'

/-- **The folders that can be held at any time:** none, those with one more that was registered, and what a walk of any
    graph leaves, whether it fails or not. -/
inductive Accumulator.Reachable : Accumulator → Prop
  | empty : Reachable .empty
  | register {acc acc' : Accumulator} {f : Folder} : Reachable acc → Accumulator.register acc f = .ok acc' →
      Reachable acc'
  | walk {s : Pass} (paths : List Path) (ns : NamespaceCache) (root : Path) : Reachable s.accumulator →
      Reachable (PassM.after (RootFold.walk (.ofList paths) ns root) s).accumulator

/-- **A walk leaves everything,** from any folders that are held at their own paths. -/
theorem walk_leaves (hg : g.Linked) (ns : NamespaceCache) (root : Path) (hkeyed : s.accumulator.KeyedByPath) :
    Leaves (Kept (InTree g root) s.accumulator) (fun o acc => HeldAlone g acc root o) (walk g ns root s) := by
  cases hhas : g.contains root with
  | false =>
    rw [walk, hhas, if_pos (by simp)]
    exact .error (.refl hkeyed)
  | true =>
    obtain ⟨n, hn⟩ := AncestryGraph.exists_node? hhas
    obtain ⟨hmem, hroot⟩ := AncestryGraph.node?_mem hn
    have htree : ∀ q, InTree g n q → InTree g root q := fun q hq =>
      ⟨hq.1, (Path.Covers.of_beq (BEq.symm hroot)).trans hq.2⟩
    have hsingle : ∀ q, (∃ c ∈ [n], InTree g c q) → InTree g root q := by
      rintro q ⟨c, hc, hq⟩
      exact htree q (List.mem_singleton.1 hc ▸ hq)
    rw [walk, hhas, if_neg (by simp), hg.postOrder_eq hn]
    refine (block_conserves hg ns n hmem .empty s hkeyed).bind (fun _ hkept => hkept.mono hsingle)
      fun finished s' hkept hdec => ?_
    obtain ⟨o, ho, halone⟩ := hdec.waiting n (by simp)
    rw [← PathMap.find?_congr hroot, ho]
    refine .ok (hkept.mono hsingle) fun f hf => ?_
    obtain ⟨hpath, hfind, hbelow⟩ := halone f hf
    refine ⟨BEq.trans hpath hroot, by rw [← PathMap.find?_congr hroot, hfind], fun q hq hne => ?_⟩
    exact hbelow q ⟨hq.1, (Path.Covers.of_beq hroot).trans hq.2⟩ fun he => hne (BEq.trans (BEq.symm hroot) he)

theorem Leaves.always_after {always : Accumulator → Prop} {result : β → Accumulator → Prop} {x : PassM β}
    (h : Leaves always result (x s)) : always (PassM.after x s).accumulator := by
  rw [PassM.after]
  cases hr : x s with
  | ok b s' =>
    rw [hr] at h
    cases h with
    | ok halways _ => exact halways
  | error e s' =>
    rw [hr] at h
    cases h with
    | error halways => exact halways

/-- A folder that is registered is held at its own path. -/
theorem Accumulator.KeyedByPath.register (h : acc.KeyedByPath) (heq : Accumulator.register acc f = .ok acc') :
    acc'.KeyedByPath := by
  rw [Accumulator.register] at heq
  split at heq
  · exact absurd heq nofun
  · next hfree =>
    obtain rfl := Except.ok.inj heq
    have hreplace : acc.insert f.path f = acc.replace [] f := rfl
    rw [hreplace]
    exact h.replace (by simpa using hfree)

/-- Folders that are registered one after the other. -/
theorem Accumulator.Reachable.registerAll (h : Accumulator.Reachable acc)
    (heq : folders.foldlM Accumulator.register acc = .ok acc') : Accumulator.Reachable acc' := by
  induction folders generalizing acc with
  | nil =>
    obtain rfl := Except.ok.inj heq
    exact h
  | cons f rest ih =>
    rw [List.foldlM_cons] at heq
    cases hf : Accumulator.register acc f with
    | error e =>
      rw [hf] at heq
      exact absurd heq nofun
    | ok acc₁ =>
      rw [hf] at heq
      exact ih (h.register hf) heq

/-- Whatever was held at any time was held at its own path. -/
theorem Accumulator.Reachable.keyedByPath (h : Accumulator.Reachable acc) : acc.KeyedByPath := by
  induction h with
  | empty => exact nofun
  | register _ heq ih => exact ih.register heq
  | walk paths ns root _ ih => exact (walk_leaves (AncestryGraph.linked_ofList paths) ns root ih).always_after.keyed

/-- **Conservation.** Whether a walk fails or not, on the graph of any list of directories and from any folders that can
    be held at any time: folders are held at their own paths, the members of all of them together are the same as
    before, every path that was held is covered by one that is held, and no row has changed whose path is not in the
    root's tree. If the outcome is a folder, it is held at the root, and nothing else is held below. -/
theorem walk_conserves (paths : List Path) (ns : NamespaceCache) (root : Path) (s : Pass)
    (h : Accumulator.Reachable s.accumulator) :
    let left := (PassM.after (walk (.ofList paths) ns root) s).accumulator
    left.KeyedByPath ∧
    (∀ x, HasMember left x ↔ HasMember s.accumulator x) ∧
    (∀ q, s.accumulator.contains q = true → ∃ q', left.contains q' = true ∧ q'.Covers q) ∧
    (∀ row : Path × Folder, ¬ InTree (.ofList paths) root row.1 →
      (row ∈ left.entries ↔ row ∈ s.accumulator.entries)) ∧
    ∀ f s', walk (.ofList paths) ns root s = .ok (.merged f) s' →
      (f.path == root) = true ∧ left.find? root = some f ∧
        ∀ q, InTree (.ofList paths) root q → ¬ (root == q) = true → left.contains q = false := by
  intro left
  have hleaves := walk_leaves (AncestryGraph.linked_ofList paths) ns root h.keyedByPath
  have hkept : Kept (InTree (.ofList paths) root) s.accumulator left := hleaves.always_after
  refine ⟨hkept.keyed, hkept.members, hkept.covered, fun row hrow => ?_, fun f s' heq => ?_⟩
  · have hmem : ∀ acc : Accumulator, row ∈ acc.entries ↔ acc.row? row.1 = some row := fun acc =>
      ⟨fun hr => PathMap.row?_eq_some_iff.2 ⟨hr, BEq.rfl⟩, fun hr => (PathMap.row?_eq_some_iff.1 hr).1⟩
    rw [hmem, hmem, hkept.frame row.1 hrow]
  · have hleft : left = s'.accumulator := by
      show (PassM.after (walk (.ofList paths) ns root) s).accumulator = _
      rw [PassM.after, heq]
    rw [heq] at hleaves
    rw [hleft]
    cases hleaves with
    | ok _ halone => exact halone f rfl

/-- Folders that no check would let pass: one of them lies above the others. -/
def nestedDeclarations : List Folder :=
  ["src/a/x", "src/a/y", "src"].map fun text => ⟨.ofText text, .source, false, .empty⟩

/-- These folders, registered one after the other. -/
def nestedFolders : Accumulator :=
  nestedDeclarations.foldl (fun acc f => acc.insert f.path f) .empty

theorem walk_conserves_nestedDeclarations :
    ∃ e s', walk (.ofList (nestedDeclarations.map (·.path))) .empty (.ofText "src") ⟨nestedFolders, []⟩ = .error e s' ∧
      s'.accumulator.KeyedByPath ∧ (∀ x, HasMember s'.accumulator x ↔ HasMember nestedFolders x) ∧
      ∀ q, nestedFolders.contains q = true → ∃ q', s'.accumulator.contains q' = true ∧ q'.Covers q := by
  have hregister : nestedDeclarations.foldlM Accumulator.register .empty = .ok nestedFolders := rfl
  have hreachable : Accumulator.Reachable nestedFolders := Accumulator.Reachable.empty.registerAll hregister
  obtain ⟨hkeyed, hmembers, hcovered, -⟩ :=
    walk_conserves (nestedDeclarations.map (·.path)) .empty (.ofText "src") ⟨nestedFolders, []⟩ hreachable
  have hcomputed : ((AncestryGraph.ofList (nestedDeclarations.map (·.path))).node? (.ofText "src")).any (fun n =>
      !(collapseTree (.ofList (nestedDeclarations.map (·.path))) .empty n nestedFolders).toBool) = true := by
    decide +kernel
  obtain ⟨n, hn, hfails⟩ := (Option.any_eq_true _ _).1 hcomputed
  have hsim := walk_simulated (s := ⟨nestedFolders, []⟩) (AncestryGraph.linked_ofList _) .empty hn
    hreachable.keyedByPath
  rw [PassM.after] at hkeyed hmembers hcovered
  generalize htree : collapseTree (.ofList (nestedDeclarations.map (·.path))) .empty n nestedFolders = tree
    at hsim hfails
  generalize hwalk : walk (.ofList (nestedDeclarations.map (·.path))) .empty (.ofText "src") ⟨nestedFolders, []⟩ = run
    at hsim hkeyed hmembers hcovered ⊢
  cases hsim with
  | ok => exact absurd hfails (by simp [Except.toBool])
  | error => exact ⟨_, _, rfl, hkeyed, hmembers, hcovered⟩

end RootFold
