import RootFold.Proofs.Merge.Recursion

/-!
# `RootFold.Proofs.Merge.Refinement` — the walk does what the recursion does

The walk goes through one list of directories, keeps all outcomes that wait in one map, and takes the children of a
directory in the order in which their edges came; the recursion takes them in path order and hands their outcomes
on. Both end alike: the walk of a directory's block follows the recursion on the directory's tree, step by step, and
the two orders make no difference since the trees inside one directory are apart.

## Contents
- **Following.** `Simulated`, a run that does what a change does, with its rules.
- **One directory.** `mergeNode_simulated`: the decision is the rule, notes apart.
- **Blocks.** `Waits` and `WaitAll` for the outcomes that are left; `forest_simulated`, `block_simulated`.
- **Walks.** `walk_simulated`.
-/

namespace RootFold

variable {ns : NamespaceCache} {g : AncestryGraph} {p q c n root node : Path} {cs : List Path} {outcomes : List Outcome}
  {acc acc' : Accumulator} {o : Outcome} {finished finished' : Finished} {s : Pass} {α α' β β' : Type}

/-! ## Following -/

/-- **A run follows a change of the folders:** both fail, or both succeed with the same folders and with results
    that correspond. What is noted is left open. -/
inductive Simulated (R : α → β → Prop) : Except Error (α × Accumulator) → EStateM.Result Error Pass β → Prop
  | ok {a : α} {b : β} {acc : Accumulator} {notes : List Note} : R a b → Simulated R (.ok (a, acc)) (.ok b ⟨acc, notes⟩)
  | error {e e' : Error} {s : Pass} : Simulated R (.error e) (.error e' s)

namespace Simulated

variable {R : α → β → Prop} {R' : α' → β' → Prop} {x : Collapsing α} {y : PassM β}

/-- Runs that follow changes, one after the other. -/
theorem bind {f : α → Collapsing α'} {h : β → PassM β'} (hx : Simulated R (x acc) (y s))
    (hf : ∀ a acc' b notes, x acc = .ok (a, acc') → R a b → Simulated R' (f a acc') (h b ⟨acc', notes⟩)) :
    Simulated R' ((x >>= f) acc) ((y >>= h) s) := by
  show Simulated R' (x acc >>= fun r => f r.1 r.2) _
  generalize hr : x acc = result at hx
  generalize hs : y s = run at hx
  cases hx with
  | ok hR =>
    rw [bind_ok hs]
    exact hf _ _ _ _ hr hR
  | error =>
    rw [bind_error hs]
    exact .error

/-- A run that goes on after the change. -/
theorem bind_right {R₂ : α → β' → Prop} {h : β → PassM β'} (hx : Simulated R (x acc) (y s))
    (hf : ∀ a acc' b notes, x acc = .ok (a, acc') → R a b → Simulated R₂ (.ok (a, acc')) (h b ⟨acc', notes⟩)) :
    Simulated R₂ (x acc) ((y >>= h) s) := by
  have hoperand : x acc = (x >>= Pure.pure) acc := by rw [bind_pure]
  rw [hoperand]
  exact hx.bind hf

theorem pure {a : α} {b : β} {notes : List Note} (h : R a b) :
    Simulated R ((Pure.pure a : Collapsing α) acc) ((Pure.pure b : PassM β) ⟨acc, notes⟩) := .ok h

/-- The ends of a run that follows a change. -/
theorem eq_ok_iff {result : Except Error (α × Accumulator)} {run : EStateM.Result Error Pass α} {a : α}
    (h : Simulated (· = ·) result run) : (∃ notes, run = .ok a ⟨acc, notes⟩) ↔ result = .ok (a, acc) := by
  cases h with
  | ok hR =>
    subst hR
    constructor
    · rintro ⟨notes, hrun⟩
      injection hrun with ha hs
      injection hs with hacc
      rw [ha, hacc]
    · intro hresult
      obtain ⟨rfl, rfl⟩ := Prod.mk.inj (Except.ok.inj hresult)
      exact ⟨_, rfl⟩
  | error =>
    constructor
    · rintro ⟨_, hrun⟩
      exact absurd hrun nofun
    · intro hresult
      exact absurd hresult nofun

end Simulated

/-! ## One directory -/

theorem allMerged?_of_blocked (h : .blocked ∈ outcomes) : allMerged? outcomes = none := by
  cases hall : allMerged? outcomes with
  | none => rfl
  | some folders =>
    rw [allMerged?_eq_some hall] at h
    obtain ⟨f, -, hf⟩ := List.mem_map.1 h
    exact absurd hf nofun

/-- A directory with nothing inside must be declared. -/
theorem mergeNode_undeclared (h : s.accumulator.find? node = none) :
    mergeNode ns node [] s = .error (.inconsistent (.leafUndeclared node)) s := by
  rw [mergeNode, allMerged?]
  simp only
  rw [bind_ok (show (get : PassM Pass) s = .ok s s from rfl), h]
  rfl

/-- A directory with folders inside must not be declared. -/
theorem mergeNode_declared {first : Folder} {rest : List Folder} (h : s.accumulator.contains node = true) :
    mergeNode ns node ((first :: rest).map .merged) s = .error (.inconsistent (.declaredAbove node)) s := by
  rw [mergeNode, allMerged?_map_merged]
  simp only
  rw [bind_ok (show (get : PassM Pass) s = .ok s s from rfl), h, if_pos rfl]
  rfl

/-- **The decision about a directory follows the rule.** If it fails, the state is as it was before. -/
theorem mergeNode_cases (hin : ∀ f, .merged f ∈ outcomes → f.path.LiesIn node) (s : Pass) :
    (∃ o acc notes, CollapseStep ns node outcomes s.accumulator o acc ∧
      mergeNode ns node outcomes s = .ok o ⟨acc, notes⟩) ∨
    (∃ e, collapseNode ns node outcomes s.accumulator = .error e ∧ mergeNode ns node outcomes s = .error e s) := by
  rcases blocked_mem_or_eq_map outcomes with hblocked | ⟨folders, rfl⟩
  · obtain ⟨notes, heq⟩ := mergeNode_blockedBelow ns node (allMerged?_of_blocked hblocked) s
    exact .inl ⟨_, _, notes, .blockedBelow hblocked, heq⟩
  · cases folders with
    | nil =>
      cases hfind : s.accumulator.find? node with
      | some f => exact .inl ⟨_, _, _, .leaf hfind, mergeNode_leaf rfl hfind⟩
      | none => exact .inr ⟨_, by simp [collapseNode, hfind], mergeNode_undeclared hfind⟩
    | cons first rest =>
      have hin' : ∀ f ∈ first :: rest, f.path.LiesIn node := fun f hf => hin f (List.mem_map_of_mem hf)
      cases hfree : s.accumulator.contains node with
      | true =>
        obtain ⟨b, -, heq⟩ := collapseNode_inside ns hin' s.accumulator
        rw [hfree, if_pos rfl] at heq
        exact .inr ⟨_, heq, mergeNode_declared hfree⟩
      | false =>
        have habove : ∀ f ∈ first :: rest, node.IsAbove f.path := fun f hf => (hin' f hf).isAbove
        rcases mergeNode_inside ns (allMerged?_map_merged (first :: rest)) habove hfree with
          ⟨habs, notes, heq⟩ | ⟨hnot, notes, heq⟩
        · exact .inl ⟨_, _, notes, .joined hfree habs, heq⟩
        · exact .inl ⟨_, _, notes, .refused hfree hnot, heq⟩

theorem mergeNode_simulated (hin : ∀ f, .merged f ∈ outcomes → f.path.LiesIn node) (s : Pass) :
    Simulated (· = ·) (collapseNode ns node outcomes s.accumulator) (mergeNode ns node outcomes s) := by
  rcases mergeNode_cases hin s with ⟨o, acc, notes, hstep, heq⟩ | ⟨e, hrule, heq⟩
  · rw [(collapseNode_eq_ok_iff hin).2 hstep, heq]
    exact .ok rfl
  · rw [hrule, heq]
    exact .error

/-! ## Blocks -/

/-- **One outcome has come to wait,** and no other has changed outside the tree. -/
structure Waits (p : Path) (finished : Finished) (o : Outcome) (finished' : Finished) : Prop where
  waiting : finished'.find? p = some o
  frame : ∀ q, ¬ p.Covers q → finished'.find? q = finished.find? q

/-- **The outcomes of several trees have come to wait.** -/
structure WaitAll (cs : List Path) (finished : Finished) (outcomes : List Outcome) (finished' : Finished) : Prop where
  waiting : outcomes.map some = cs.map finished'.find?
  frame : ∀ q, (∀ c ∈ cs, ¬ c.Covers q) → finished'.find? q = finished.find? q

/-- The outcomes of several trees wait when that of the first does and then those of the others. -/
theorem Waits.cons {finished₁ : Finished} (hap : ∀ d ∈ cs, Apart c d) (h : Waits c finished o finished₁)
    (hs : WaitAll cs finished₁ outcomes finished') : WaitAll (c :: cs) finished (o :: outcomes) finished' where
  waiting := by
    rw [List.map_cons, List.map_cons, hs.frame c (not_covers_of_apart hap (.refl c)), h.waiting, hs.waiting]
  frame q hq := by
    obtain ⟨hcq, hcs⟩ := List.forall_mem_cons.1 hq
    rw [hs.frame q hcs, h.frame q hcq]

/-- **A list of directories follows a tree.** -/
def Follows (g : AncestryGraph) (ns : NamespaceCache) (p : Path) (nodes : List Path) : Prop :=
  ∀ (finished : Finished) (s : Pass), s.accumulator.KeyedByPath →
    Simulated (fun o finished' => Waits p finished o finished') (collapseTree g ns p s.accumulator)
      (nodes.foldlM (stepNode g ns) finished s)

/-- **Trees that are apart** are followed one after the other. -/
theorem forest_simulated {block : Path → List Path} (hap : cs.Pairwise Apart)
    (hlocal : ∀ c ∈ cs, Local c.Covers (Outcome.At c) (collapseTree g ns c)) (h : ∀ c ∈ cs, Follows g ns c (block c))
    (finished : Finished) (hkeyed : s.accumulator.KeyedByPath) :
    Simulated (fun outcomes finished' => WaitAll cs finished outcomes finished')
      (cs.mapM (collapseTree g ns) s.accumulator) ((cs.flatMap block).foldlM (stepNode g ns) finished s) := by
  induction cs generalizing finished s with
  | nil => exact .ok ⟨rfl, fun _ _ => rfl⟩
  | cons c rest ih =>
    obtain ⟨hfirst, hrest⟩ := List.pairwise_cons.1 hap
    rw [List.mapM_cons, List.flatMap_cons, List.foldlM_append]
    refine (h c (by simp) finished s hkeyed).bind fun o acc finished₁ notes hc hwait => ?_
    have hkeyed' : acc.KeyedByPath := ((hlocal c (by simp)).keeps hkeyed hc).1
    have hothers := ih hrest (fun d hd => hlocal d (by simp [hd])) (fun d hd => h d (by simp [hd])) finished₁
      (s := ⟨acc, notes⟩) hkeyed'
    rw [← bind_pure ((rest.flatMap block).foldlM (stepNode g ns) finished₁)]
    exact hothers.bind fun outcomes _ _ _ _ hwaits => .pure (hwait.cons hfirst hwaits)

/-- What is followed in one order is followed in any. -/
theorem forest_simulated_perm {cs' : List Path} {run : EStateM.Result Error Pass Finished} (hap : cs.Pairwise Apart)
    (hlocal : ∀ c ∈ cs, Local c.Covers (Outcome.At c) (collapseTree g ns c)) (hperm : cs.Perm cs')
    (hkeyed : acc.KeyedByPath)
    (h : Simulated (fun outcomes finished' => WaitAll cs finished outcomes finished')
      (cs.mapM (collapseTree g ns) acc) run) :
    Simulated (fun outcomes finished' => WaitAll cs' finished outcomes finished')
      (cs'.mapM (collapseTree g ns) acc) run := by
  have hap' : cs'.Pairwise Apart := hperm.pairwise hap fun hab q hbq haq => hab q haq hbq
  have hlocal' : ∀ c ∈ cs', Local c.Covers (Outcome.At c) (collapseTree g ns c) := fun c hc =>
    hlocal c (hperm.mem_iff.2 hc)
  generalize hr : cs.mapM (collapseTree g ns) acc = result at h
  cases h with
  | ok hwaits =>
    obtain ⟨outcomes', heq, hout, hout'⟩ := exists_mapM_perm hlocal hap hperm hkeyed hr
    rw [heq]
    -- the outcome that waits for a tree is the tree's own, so the order of the list does not matter
    have hfind : ∀ c ∈ cs, _ = _ := List.map_inj_left.1 (hout.symm.trans hwaits.waiting)
    refine .ok ⟨hout'.trans (List.map_congr_left fun c hc => hfind c (hperm.mem_iff.2 hc)), fun q hq => ?_⟩
    exact hwaits.frame q fun c hc => hq c (hperm.mem_iff.1 hc)
  | error =>
    cases hr' : cs'.mapM (collapseTree g ns) acc with
    | error e => exact .error
    | ok r =>
      obtain ⟨_, heq, -⟩ := exists_mapM_perm hlocal' hap' hperm.symm hkeyed hr'
      exact absurd (hr.symm.trans heq) nofun

/-- **One step** takes the outcomes of the children and leaves that of the rule. -/
theorem stepNode_simulated (hg : g.Linked) {finished₁ : Finished}
    (hwaits : WaitAll (g.children p) finished outcomes finished₁)
    (hin : ∀ f, .merged f ∈ outcomes → f.path.LiesIn p) (s : Pass) :
    Simulated (fun o finished' => Waits p finished o finished') (collapseNode ns p outcomes s.accumulator)
      (stepNode g ns finished₁ p s) := by
  have hlies : ∀ c ∈ g.children p, c.LiesIn p := fun c hc => (hg.mem_children.1 hc).2
  have hdistinct : (g.children p).Pairwise fun a b => ¬ (a == b) = true :=
    (hg.children_sorted p).imp Path.not_beq_of_lt
  have hpresent : ∀ c ∈ g.children p, ∃ o, finished₁.find? c = some o := by
    intro c hc
    have hmem : finished₁.find? c ∈ outcomes.map some := hwaits.waiting ▸ List.mem_map_of_mem hc
    obtain ⟨o, -, ho⟩ := List.mem_map.1 hmem
    exact ⟨o, ho.symm⟩
  obtain ⟨taken, left, htake, hmap, hleft⟩ := exists_takeOutcomes hdistinct hpresent
  obtain rfl : taken = outcomes :=
    List.map_injective_iff.2 (Option.some_injective _) (hmap.trans hwaits.waiting.symm)
  have hstep : stepNode g ns finished₁ p s =
      (mergeNode ns p taken >>= fun o => pure (left.insert p o) : PassM Finished) s := by
    rw [stepNode, htake, bind_ok (PassM.ofExcept_ok _ s)]
  rw [hstep]
  refine (mergeNode_simulated hin s).bind_right fun o _ o' _ _ hoo => .ok ⟨?_, fun q hq => ?_⟩
  · rw [PathMap.find?_insert, if_pos BEq.rfl, hoo]
  · have hfar : ∀ c ∈ g.children p, ¬ c.Covers q := fun c hc hcq => hq ((hlies c hc).covers.trans hcq)
    rw [PathMap.find?_insert, if_neg fun he => hq (.of_beq (BEq.symm he)), hleft, if_neg, hwaits.frame q hfar]
    intro hany
    obtain ⟨c, hc, hqc⟩ := List.any_eq_true.1 hany
    exact hfar c hc (.of_beq (BEq.symm hqc))

/-- **A block follows the tree** of its directory. -/
theorem block_simulated (hg : g.Linked) (ns : NamespaceCache) : ∀ p ∈ g.nodes, Follows g ns p (g.block p) := by
  refine hg.inside_induction fun p hp ih => ?_
  intro finished s hkeyed
  have hchild : ∀ c ∈ g.childrenByAge p, c ∈ g.nodes ∧ c.LiesIn p := fun c hc => hg.mem_childrenByAge.1 hc
  have hap := apart_of_liesIn (fun c hc => (hchild c hc).2) (hg.childrenByAge_distinct p)
  have hlocal : ∀ c ∈ g.childrenByAge p, Local c.Covers (Outcome.At c) (collapseTree g ns c) := fun c hc =>
    local_collapseTree hg ns c (hchild c hc).1
  have hperm : (g.childrenByAge p).Perm (g.children p) := (List.mergeSort_perm _ _).symm
  -- by age first, as the walk goes, and then in path order, as the step and the recursion do
  have hforest := forest_simulated_perm hap hlocal hperm hkeyed (forest_simulated hap hlocal ih finished hkeyed)
  rw [hg.collapseTree_eq, hg.block_eq, List.foldlM_append]
  refine hforest.bind fun outcomes acc finished₁ notes hout hwaits => ?_
  rw [List.foldlM_cons]
  simp only [List.foldlM_nil, bind_pure]
  exact stepNode_simulated hg hwaits (liesIn_of_mapM_children hg hkeyed hout) ⟨acc, notes⟩

/-! ## Walks -/

/-- **The walk of a tree follows the recursion.** -/
theorem walk_simulated (hg : g.Linked) (ns : NamespaceCache) (hn : g.node? root = some n)
    (hkeyed : s.accumulator.KeyedByPath) :
    Simulated (· = ·) (collapseTree g ns n s.accumulator) (walk g ns root s) := by
  obtain ⟨hmem, hroot⟩ := AncestryGraph.node?_mem hn
  have hhas : g.contains root = true := AncestryGraph.contains_iff.2 ⟨n, hmem, hroot⟩
  have hblock := block_simulated hg ns n hmem .empty s hkeyed
  rw [walk, hhas, if_neg (by simp), hg.postOrder_eq hn]
  refine hblock.bind_right fun o acc finished notes _ hwait => ?_
  rw [← PathMap.find?_congr hroot, hwait.waiting]
  exact .ok rfl

end RootFold
