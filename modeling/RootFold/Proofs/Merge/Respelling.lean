import RootFold.Proofs.Ancestry.Respelling
import RootFold.Proofs.Merge.Refinement

/-!
# `RootFold.Proofs.Merge.Respelling` — the order of insertion decides about spellings only

A graph spells a directory as it was first met, so two graphs of the same directories may spell them in different
ways. Nothing else depends on the order in which they were inserted: the recursion takes children in path order,
which is the same in both graphs, and what it reads and writes is compared by steps.

## Contents
- **Spellings.** `Folder.Respelled`, `Outcome.Respelled`, `Accumulator.Respelled`.
- **The rule.** `collapseStep_respelled`.
- **The recursion.** `mapM_respelled`, `collapseTree_respelled`.
- **Walks.** `EndAlike`, `walk_refines_recursion`.
-/

namespace RootFold

variable {ns : NamespaceCache} {g g' : AncestryGraph} {p p' q n n' root node node' : Path} {cs cs' : List Path}
  {outcomes outcomes' : List Outcome} {acc acc' acc₁ acc₁' : Accumulator} {o o' : Outcome} {f f' : Folder}
  {folders folders' : List Folder} {s : Pass}

/-! ## Spellings -/

/-- **A folder whose path is spelled in another way,** and the same otherwise. -/
structure Folder.Respelled (f f' : Folder) : Prop where
  path : (f.path == f'.path) = true
  kind : f.kind = f'.kind
  flag : f.wantsNamespacePrefix = f'.wantsNamespacePrefix
  members : f.members = f'.members

/-- **An outcome up to spelling.** -/
def Outcome.Respelled (o o' : Outcome) : Prop := Option.Rel Folder.Respelled o.folder? o'.folder?

/-- **The folders that are held, up to spelling.** -/
def Accumulator.Respelled (acc acc' : Accumulator) : Prop :=
  ∀ q, Option.Rel Folder.Respelled (acc.find? q) (acc'.find? q)

theorem Folder.Respelled.refl (f : Folder) : f.Respelled f := ⟨BEq.rfl, rfl, rfl, rfl⟩

theorem Accumulator.Respelled.refl (acc : Accumulator) : Accumulator.Respelled acc acc := fun q => by
  cases acc.find? q with
  | none => exact .none
  | some f => exact .some (.refl f)

theorem Accumulator.Respelled.contains (h : Accumulator.Respelled acc acc') (he : (p == p') = true) :
    acc.contains p = acc'.contains p' := by
  rw [PathMap.contains_congr he, PathMap.contains, PathMap.contains]
  have hrel := h p'
  generalize acc.find? p' = found at hrel ⊢
  generalize acc'.find? p' = found' at hrel ⊢
  cases hrel <;> rfl

theorem Outcome.Respelled.merged (h : f.Respelled f') : Outcome.Respelled (.merged f) (.merged f') := .some h

theorem Outcome.Respelled.blocked : Outcome.Respelled .blocked .blocked := .none

theorem Outcome.Respelled.eq_blocked (h : Outcome.Respelled .blocked o) : o = .blocked := by
  cases o with
  | blocked => rfl
  | merged f => exact absurd h nofun

theorem Outcome.Respelled.exists_merged (h : Outcome.Respelled (.merged f) o) :
    ∃ f', o = .merged f' ∧ f.Respelled f' := by
  cases o with
  | blocked => exact absurd h nofun
  | merged f' =>
    cases h with
    | some hf => exact ⟨f', rfl, hf⟩

/-! ## The rule -/

/-- Outcomes of which one is blocked are blocked in any spelling. -/
theorem blocked_mem_respelled (h : List.Forall₂ Outcome.Respelled outcomes outcomes') (hb : .blocked ∈ outcomes) :
    .blocked ∈ outcomes' := by
  induction h with
  | nil => exact absurd hb List.not_mem_nil
  | cons ho _ ih =>
    rcases List.mem_cons.1 hb with rfl | hb
    · exact ho.eq_blocked ▸ List.mem_cons_self
    · exact List.mem_cons_of_mem _ (ih hb)

/-- Folders stay folders in any spelling. -/
theorem exists_folders_respelled (h : List.Forall₂ Outcome.Respelled (folders.map .merged) outcomes) :
    ∃ folders', outcomes = folders'.map .merged ∧ List.Forall₂ Folder.Respelled folders folders' := by
  induction folders generalizing outcomes with
  | nil =>
    cases h
    exact ⟨[], rfl, .nil⟩
  | cons f rest ih =>
    cases h with
    | cons ho hrest =>
      obtain ⟨f', rfl, hf⟩ := ho.exists_merged
      obtain ⟨rest', rfl, hrest'⟩ := ih hrest
      exact ⟨f' :: rest', rfl, .cons hf hrest'⟩

theorem Absorbs.respelled {template template' : Folder} (h : Absorbs ns template f) (ht : template.Respelled template')
    (hf : f.Respelled f') : Absorbs ns template' f' where
  kind := ht.kind ▸ hf.kind ▸ h.kind
  flag := ht.flag ▸ hf.flag ▸ h.flag
  follows hw := (NamespaceCache.Follows.congr ht.path hf.path).1 (h.follows (ht.flag ▸ hw))

theorem Folder.Respelled.symm (h : f.Respelled f') : f'.Respelled f :=
  ⟨BEq.symm h.path, h.kind.symm, h.flag.symm, h.members.symm⟩

theorem Folder.Respelled.relocated (h : f.Respelled f') (hnode : (node == node') = true) :
    (f.relocated node).Respelled (f'.relocated node') := ⟨hnode, h.kind, h.flag, rfl⟩

theorem gather_respelled (h : List.Forall₂ Folder.Respelled folders folders') (members : PathSet) :
    members.gather folders = members.gather folders' := by
  induction h generalizing members with
  | nil => rfl
  | cons hf _ ih =>
    rw [PathSet.gather, List.foldl_cons, ← PathSet.gather, ih, hf.members]
    rfl

theorem Folder.Respelled.joined (h : f.Respelled f') (hnode : (node == node') = true)
    (hs : List.Forall₂ Folder.Respelled folders folders') :
    (f.joined node folders).Respelled (f'.joined node' folders') := ⟨hnode, h.kind, h.flag, gather_respelled hs _⟩

/-- A template that may absorb all folders may do so in any spelling. -/
theorem forall_absorbs_respelled {template template' : Folder} (ht : template.Respelled template')
    (hs : List.Forall₂ Folder.Respelled folders folders') (h : ∀ f ∈ folders, Absorbs ns template f) :
    ∀ f ∈ folders', Absorbs ns template' f := by
  induction hs with
  | nil => exact nofun
  | cons hf _ ih =>
    obtain ⟨hfirst, hrest⟩ := List.forall_mem_cons.1 h
    exact List.forall_mem_cons.2 ⟨hfirst.respelled ht hf, ih hrest⟩

theorem any_beq_path_respelled (hs : List.Forall₂ Folder.Respelled folders folders') (q : Path) :
    folders.any (fun f => q == f.path) = folders'.any fun f => q == f.path := by
  induction hs with
  | nil => rfl
  | cons hf _ ih => rw [List.any_cons, List.any_cons, ih, BEq.congr_right hf.path]

/-- One folder takes the place of several, up to spelling. -/
theorem Accumulator.Respelled.replace (h : Accumulator.Respelled acc acc')
    (hs : List.Forall₂ Folder.Respelled folders folders') (hf : f.Respelled f') :
    Accumulator.Respelled (acc.replace folders f) (acc'.replace folders' f') :=
  rel_find?_replace h (any_beq_path_respelled hs) hf.path hf

/-- **The rule does not depend on spellings.** -/
theorem collapseStep_respelled (hnode : (node == node') = true)
    (houtcomes : List.Forall₂ Outcome.Respelled outcomes outcomes') (hacc : Accumulator.Respelled acc acc')
    (h : CollapseStep ns node outcomes acc o acc₁) :
    ∃ o' acc₁', CollapseStep ns node' outcomes' acc' o' acc₁' ∧ o.Respelled o' ∧ Accumulator.Respelled acc₁ acc₁' := by
  cases h with
  | blockedBelow hb => exact ⟨_, _, .blockedBelow (blocked_mem_respelled houtcomes hb), .blocked, hacc⟩
  | leaf hfind =>
    cases houtcomes
    have hrel := hacc node'
    rw [← PathMap.find?_congr hnode, hfind] at hrel
    generalize hfind' : acc'.find? node' = found at hrel
    cases hrel with
    | some hf => exact ⟨_, _, .leaf hfind', .merged hf, hacc⟩
  | refused hfree hnot =>
    obtain ⟨folders', rfl, hs⟩ := exists_folders_respelled houtcomes
    cases hs with
    | cons hfirst hrest =>
      refine ⟨_, _, .refused (hacc.contains hnode ▸ hfree) fun habs => hnot ?_, .blocked, hacc⟩
      have hback := List.Forall₂.flip ((List.Forall₂.cons hfirst hrest).imp fun _ _ hf => hf.symm)
      exact forall_absorbs_respelled (hfirst.relocated hnode).symm hback habs
  | joined hfree habs =>
    obtain ⟨folders', rfl, hs⟩ := exists_folders_respelled houtcomes
    cases hs with
    | cons hfirst hrest =>
      have hjoined := hfirst.joined hnode (.cons hfirst hrest)
      refine ⟨_, _, .joined (hacc.contains hnode ▸ hfree) ?_, .merged hjoined,
        hacc.replace (.cons hfirst hrest) hjoined⟩
      exact forall_absorbs_respelled (hfirst.relocated hnode) (.cons hfirst hrest) habs

/-! ## The recursion -/

/-- **Trees in two graphs of the same directories** do the same, up to spelling. -/
def TreeRespelled (g g' : AncestryGraph) (ns : NamespaceCache) (p p' : Path) : Prop :=
  ∀ {acc acc' acc₁ : Accumulator} {o : Outcome}, acc.KeyedByPath → acc'.KeyedByPath → Accumulator.Respelled acc acc' →
    collapseTree g ns p acc = .ok (o, acc₁) →
    ∃ o' acc₁', collapseTree g' ns p' acc' = .ok (o', acc₁') ∧ o.Respelled o' ∧ Accumulator.Respelled acc₁ acc₁'

/-- Trees that do the same do so one after the other. -/
theorem mapM_respelled (hg : g.Linked) (hg' : g'.Linked)
    (hcs : List.Forall₂ (fun c c' : Path => (c == c') = true) cs cs')
    (hmem : ∀ c ∈ cs, c ∈ g.nodes) (hmem' : ∀ c ∈ cs', c ∈ g'.nodes)
    (htrees : ∀ c ∈ cs, ∀ c' ∈ g'.nodes, (c == c') = true → TreeRespelled g g' ns c c') (hkeyed : acc.KeyedByPath)
    (hkeyed' : acc'.KeyedByPath) (hacc : Accumulator.Respelled acc acc')
    (h : cs.mapM (collapseTree g ns) acc = .ok (outcomes, acc₁)) :
    ∃ outcomes' acc₁', cs'.mapM (collapseTree g' ns) acc' = .ok (outcomes', acc₁') ∧
      List.Forall₂ Outcome.Respelled outcomes outcomes' ∧ Accumulator.Respelled acc₁ acc₁' := by
  induction hcs generalizing acc acc' outcomes with
  | nil =>
    obtain ⟨rfl, rfl⟩ := Prod.mk.inj (Except.ok.inj h)
    exact ⟨[], acc', rfl, .nil, hacc⟩
  | @cons c c' rest rest' hcc _ ih =>
    obtain ⟨hc, hrest⟩ := List.forall_mem_cons.1 hmem
    obtain ⟨hc', hrest'⟩ := List.forall_mem_cons.1 hmem'
    obtain ⟨htree, htrees⟩ := List.forall_mem_cons.1 htrees
    rw [List.mapM_cons] at h ⊢
    obtain ⟨o, mid, hfirst, hafter⟩ := Collapsing.bind_eq_ok_iff.1 h
    obtain ⟨others, last, hothers, hpure⟩ := Collapsing.bind_eq_ok_iff.1 hafter
    obtain ⟨rfl, rfl⟩ := Prod.mk.inj (Except.ok.inj hpure)
    obtain ⟨o', mid', hfirst', ho, hmid⟩ := htree c' hc' hcc hkeyed hkeyed' hacc hfirst
    have hkeyedMid := ((local_collapseTree hg ns c hc).keeps hkeyed hfirst).1
    have hkeyedMid' := ((local_collapseTree hg' ns c' hc').keeps hkeyed' hfirst').1
    obtain ⟨others', last', hothers', hos, hlast⟩ := ih hrest hrest' htrees hkeyedMid hkeyedMid' hmid hothers
    refine ⟨o' :: others', last', ?_, .cons ho hos, hlast⟩
    exact Collapsing.bind_eq_ok_iff.2 ⟨o', mid', hfirst', Collapsing.bind_eq_ok_iff.2 ⟨others', last', hothers', rfl⟩⟩

/-- **The recursion does not depend on spellings.** -/
theorem collapseTree_respelled (hg : g.Linked) (hg' : g'.Linked) (hsame : ∀ q, g.contains q = g'.contains q)
    (ns : NamespaceCache) :
    ∀ p ∈ g.nodes, ∀ p' ∈ g'.nodes, (p == p') = true → TreeRespelled g g' ns p p' := by
  refine hg.inside_induction fun p _ ih => ?_
  intro p' _ hp acc acc' acc₁ o hkeyed hkeyed' hacc h
  rw [hg.collapseTree_eq] at h
  obtain ⟨outcomes, mid, houtcomes, hrule⟩ := Collapsing.bind_eq_ok_iff.1 h
  have hchild : ∀ c ∈ g.children p, c ∈ g.childrenByAge p := fun c hc =>
    hg.mem_childrenByAge.2 (hg.mem_children.1 hc)
  obtain ⟨outcomes', mid', houtcomes', hos, hmid⟩ := mapM_respelled hg hg' (children_respelled hg hg' hsame hp)
    (fun c hc => (hg.mem_children.1 hc).1) (fun c hc => (hg'.mem_children.1 hc).1) (fun c hc => ih c (hchild c hc))
    hkeyed hkeyed' hacc houtcomes
  have hstep := (collapseNode_eq_ok_iff (liesIn_of_mapM_children hg hkeyed houtcomes)).1 hrule
  obtain ⟨o', acc₁', hstep', ho, hacc₁⟩ := collapseStep_respelled hp hos hmid hstep
  have hrule' := (collapseNode_eq_ok_iff (liesIn_of_mapM_children hg' hkeyed' houtcomes')).2 hstep'
  refine ⟨o', acc₁', ?_, ho, hacc₁⟩
  rw [hg'.collapseTree_eq]
  exact Collapsing.bind_eq_ok_iff.2 ⟨outcomes', mid', houtcomes', hrule'⟩

/-! ## Walks -/

/-- **Two walks end alike:** both fail, or both succeed with the same outcome and the same folders, up to spelling. -/
inductive EndAlike : EStateM.Result Error Pass Outcome → EStateM.Result Error Pass Outcome → Prop
  | ok {o o' : Outcome} {s s' : Pass} : o.Respelled o' → Accumulator.Respelled s.accumulator s'.accumulator →
      EndAlike (.ok o s) (.ok o' s')
  | error {e e' : Error} {s s' : Pass} : EndAlike (.error e s) (.error e' s')

/-- **Walks of two graphs of the same directories** end alike. -/
theorem walk_respelled (hg : g.Linked) (hg' : g'.Linked) (hsame : ∀ q, g.contains q = g'.contains q)
    (ns : NamespaceCache) (hn : g.node? root = some n) (hkeyed : s.accumulator.KeyedByPath) :
    EndAlike (walk g ns root s) (walk g' ns root s) := by
  obtain ⟨hmem, hroot⟩ := AncestryGraph.node?_mem hn
  have hhas : g'.contains root = true := hsame root ▸ AncestryGraph.contains_iff.2 ⟨n, hmem, hroot⟩
  obtain ⟨n', hn'⟩ := AncestryGraph.exists_node? hhas
  obtain ⟨hmem', hroot'⟩ := AncestryGraph.node?_mem hn'
  have hnn : (n == n') = true := BEq.trans hroot (BEq.symm hroot')
  have hsim := walk_simulated hg ns hn hkeyed
  have hsim' := walk_simulated hg' ns hn' hkeyed
  have hforth := @collapseTree_respelled g g' hg hg' hsame ns n hmem n' hmem' hnn
  have hback := @collapseTree_respelled g' g hg' hg (fun q => (hsame q).symm) ns n' hmem' n hmem (BEq.symm hnn)
  generalize hr : collapseTree g ns n s.accumulator = result at hsim
  generalize hr' : collapseTree g' ns n' s.accumulator = result' at hsim'
  generalize walk g ns root s = run at hsim ⊢
  generalize walk g' ns root s = run' at hsim' ⊢
  cases hsim with
  | ok hout =>
    obtain ⟨o', acc', heq, ho, hacc⟩ := hforth hkeyed hkeyed (.refl _) hr
    obtain rfl := hr'.symm.trans heq
    cases hsim' with
    | ok hout' => exact .ok (hout ▸ hout' ▸ ho) hacc
  | error =>
    cases hsim' with
    | error => exact .error
    | ok =>
      obtain ⟨o', acc', heq, -⟩ := hback hkeyed hkeyed (.refl _) hr'
      exact absurd (hr.symm.trans heq) nofun

/-- **Refinement.** On the graph of any list of directories, from any folders that are held at their own paths and at
    any root, the walk succeeds exactly when the recursion does, with the same outcome and the same folders. The
    recursion takes the children in path order and then the rule. Two lists of the same directories, in whatever order
    and spelling, give walks that end alike. -/
theorem walk_refines_recursion (paths : List Path) (ns : NamespaceCache) (s : Pass)
    (hn : (AncestryGraph.ofList paths).node? root = some n) (hkeyed : s.accumulator.KeyedByPath) :
    (∀ p, collapseTree (.ofList paths) ns p =
      ((AncestryGraph.ofList paths).children p).mapM (collapseTree (.ofList paths) ns) >>= collapseNode ns p) ∧
    (∀ o acc, (∃ notes, walk (.ofList paths) ns root s = .ok o ⟨acc, notes⟩) ↔
      collapseTree (.ofList paths) ns n s.accumulator = .ok (o, acc)) ∧
    ∀ paths' : List Path, (∀ q, paths'.contains q = paths.contains q) →
      EndAlike (walk (.ofList paths) ns root s) (walk (.ofList paths') ns root s) := by
  have hg := AncestryGraph.linked_ofList paths
  refine ⟨fun p => hg.collapseTree_eq ns p, fun o acc => (walk_simulated hg ns hn hkeyed).eq_ok_iff, ?_⟩
  intro paths' hpaths
  exact walk_respelled hg (AncestryGraph.linked_ofList paths') (contains_ofList_congr hpaths) ns hn hkeyed

/-- Two directories, not in path order. -/
def twoBranches : List Path := [.ofText "src/b/c", .ofText "src/a"]

/-- A folder without a namespace prefix at each of them. -/
def branchFolders : Accumulator := .ofList (twoBranches.map fun p => (p, ⟨p, .source, false, .empty⟩))

/-- Whether all folders became one at `src`. -/
def becameSource : Except Error (Outcome × Accumulator) → Bool
  | .ok (.merged f, left) => f.path.text == "src" && left.keys.map (·.text) == ["src"]
  | _ => false

theorem walk_refines_recursion_twoBranches :
    (∃ o left notes, walk (.ofList twoBranches) .empty (.ofText "src/") ⟨branchFolders, []⟩ = .ok o ⟨left, notes⟩ ∧
      becameSource (.ok (o, left)) = true) ∧
    EndAlike (walk (.ofList twoBranches) .empty (.ofText "src/") ⟨branchFolders, []⟩)
      (walk (.ofList twoBranches.reverse) .empty (.ofText "src/") ⟨branchFolders, []⟩) := by
  have hcomputed : ((AncestryGraph.ofList twoBranches).node? (.ofText "src/")).any (fun n =>
      becameSource (collapseTree (.ofList twoBranches) .empty n branchFolders)) = true := by decide +kernel
  obtain ⟨n, hn, hresult⟩ := (Option.any_eq_true _ _).1 hcomputed
  have hkeyed : branchFolders.KeyedByPath := by
    unfold Accumulator.KeyedByPath
    decide +kernel
  obtain ⟨-, hwalk, halike⟩ := walk_refines_recursion twoBranches .empty ⟨branchFolders, []⟩ hn hkeyed
  refine ⟨?_, halike _ fun q => List.contains_reverse⟩
  cases htree : collapseTree (.ofList twoBranches) .empty n branchFolders with
  | error e => simp [htree, becameSource] at hresult
  | ok r =>
    obtain ⟨o, left⟩ := r
    obtain ⟨notes, heq⟩ := (hwalk o left).2 htree
    exact ⟨o, left, notes, heq, htree ▸ hresult⟩

end RootFold
