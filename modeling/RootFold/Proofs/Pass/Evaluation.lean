import RootFold.Proofs.Merge.Outcome
import RootFold.Proofs.Merge.Refinement

/-!
# `RootFold.Proofs.Pass.Evaluation` — a whole pass as a recursion

Each walk of a pass follows the recursion on its tree, so the pass is nothing but one recursion for every root, in
path order, between a preparation and a last sort. Said in this way, and with insertion for every sort, a pass over
given folders can be evaluated by proof.

## Contents
- **The pass.** `collapseRoots`, `collapsePass`.
- **All trees.** `walkRoot_simulated`, `walkRoots_simulated`.
- **Results.** `simplify_eq_collapsePass`, `simplify_eq_collapse`; how to evaluate a pass: `exists_simplify_of_any`.
-/

namespace RootFold

variable {ns : NamespaceCache} {g : AncestryGraph} {resolver : Resolver} {folders : List Folder} {c : Path}
  {cs : List Path} {s : Pass} {p : Prepared}

/-! ## The pass -/

/-- **What becomes of the trees of all roots,** one after the other in path order. -/
def collapseRoots (g : AncestryGraph) (ns : NamespaceCache) : Collapsing (List Outcome) :=
  (AncestryGraph.sorted (g.nodes.filter fun p => !g.edges.any (·.2 == p))).mapM (collapseTree g ns)

theorem collapseRoots_eq (g : AncestryGraph) (ns : NamespaceCache) :
    collapseRoots g ns = g.roots.mapM (collapseTree g ns) := by
  rw [collapseRoots, ← AncestryGraph.inPathOrder_eq_sorted, AncestryGraph.roots]

/-- **A pass as a recursion:** the folders are taken in, in the order of their paths, the trees of all roots collapse,
    and what is left is put in order. -/
def collapsePass (resolver : Resolver) (folders : List Folder) : Except Error Simplified :=
  match takeIn resolver (folders.insertionSort fun a b => a.path.le b.path = true) ⟨.empty, []⟩ with
  | .error e _ => .error e
  | .ok () p => do
    let (_, acc) ← collapseRoots (.ofList p.accumulator.keys) p.namespaces p.accumulator
    return ⟨(p.excluded ++ acc.values).insertionSort fun a b => Simplified.folderLe a b = true⟩

theorem sortByPath_eq_insertionSort (folders : List Folder) :
    sortByPath folders = folders.insertionSort fun a b => a.path.le b.path = true :=
  mergeSort_eq_insertionSort (fun a b c => @Path.le_trans a.path b.path c.path) (fun a b => Path.le_total a.path b.path)
    folders

theorem Simplified.assemble_eq_insertionSort (excluded : List Folder) (acc : Accumulator) :
    assemble excluded acc = ⟨(excluded ++ acc.values).insertionSort fun a b => folderLe a b = true⟩ :=
  congrArg Simplified.mk (mergeSort_eq_insertionSort folderLe_trans folderLe_total _)

/-! ## All trees -/

/-- **One tree of a pass follows the recursion.** -/
theorem walkRoot_simulated (hg : g.Linked) (ns : NamespaceCache) (hc : c ∈ g.nodes)
    (hkeyed : s.accumulator.KeyedByPath) :
    Simulated (fun _ _ => True) (collapseTree g ns c s.accumulator) (walkRoot g ns c s) := by
  obtain ⟨n, hn⟩ := AncestryGraph.exists_node? (AncestryGraph.contains_of_mem hc)
  obtain ⟨hmem, hnc⟩ := AncestryGraph.node?_mem hn
  obtain rfl := hg.toSound.eq_of_beq hmem hc hnc
  rw [walkRoot]
  refine (walk_simulated hg ns hn hkeyed).bind_right fun o acc o' notes _ _ => ?_
  cases o' with
  | merged f => exact .ok trivial
  | blocked => exact .ok trivial

theorem walkRoots_simulated (hg : g.Linked) (ns : NamespaceCache) (hcs : ∀ c ∈ cs, c ∈ g.nodes)
    (hkeyed : s.accumulator.KeyedByPath) :
    Simulated (fun _ _ => True) (cs.mapM (collapseTree g ns) s.accumulator) (cs.forM (walkRoot g ns) s) := by
  induction cs generalizing s with
  | nil => exact .ok trivial
  | cons c rest ih =>
    obtain ⟨hc, hrest⟩ := List.forall_mem_cons.1 hcs
    rw [List.mapM_cons]
    refine (walkRoot_simulated hg ns hc hkeyed).bind fun o acc _ notes hcollapse _ => ?_
    have hkeyed' := ((local_collapseTree hg ns c hc).keeps hkeyed hcollapse).1
    rw [← bind_pure (rest.forM (walkRoot g ns))]
    exact (ih hrest (s := ⟨acc, notes⟩) hkeyed').bind fun _ _ _ _ _ _ => .pure trivial

/-! ## Results -/

theorem Registered.keyedByPath {declared : List Folder} {acc : Accumulator} (h : Registered declared acc) :
    acc.KeyedByPath := by
  intro entry hentry
  have hfind : acc.find? entry.1 = some entry.2 := PathMap.find?_eq_some_iff.2 ⟨entry.1, hentry, BEq.rfl⟩
  exact BEq.symm ((h entry.1 entry.2).1 hfind).2

/-- **A pass is a recursion.** It has the same result, and it fails with the same error. -/
theorem simplify_eq_collapsePass (resolver : Resolver) (folders : List Folder) :
    simplify resolver folders = collapsePass resolver folders := by
  rw [collapsePass, ← sortByPath_eq_insertionSort]
  cases hval : validate (sortByPath folders) with
  | error e =>
    rw [simplify_of_validate_error hval, takeIn_eq_error hval]
  | ok =>
    have hi : Independent (declaredFolders folders) := independent_sortByPath_iff.1 (validate_eq_ok_iff.1 hval)
    let p := Prepared.ofFolders resolver folders
    have hreg : Registered (declaredFolders folders) p.accumulator := registered_ofFolders resolver hi
    obtain ⟨notes, hprep⟩ := prepare_eq_ok resolver hi []
    obtain ⟨notes', htaken⟩ := takeIn_eq_ok resolver hi []
    obtain ⟨s', hwalk, -⟩ := exists_walkAll p.namespaces hi hreg notes
    have hwalk' : (AncestryGraph.ofList p.accumulator.keys).roots.forM (walkRoot _ p.namespaces)
        ⟨p.accumulator, notes⟩ = .ok () s' := hwalk
    have hg := AncestryGraph.linked_ofList p.accumulator.keys
    have hsim := walkRoots_simulated hg p.namespaces (fun c hc => (hg.mem_roots.1 hc).1) (s := ⟨p.accumulator, notes⟩)
      hreg.keyedByPath
    rw [hwalk', ← collapseRoots_eq] at hsim
    rw [simplify, runPass, hprep, htaken]
    simp only [hwalk, p]
    generalize collapseRoots _ _ p.accumulator = result at hsim
    cases hsim with
    | ok => exact congrArg Except.ok (Simplified.assemble_eq_insertionSort _ _)

/-- What becomes of folders that were taken in. -/
def Prepared.collapse (p : Prepared) : Except Error Simplified := do
  let (_, acc) ← collapseRoots (.ofList p.accumulator.keys) p.namespaces p.accumulator
  return .assemble p.excluded acc

/-- Folders that were taken in collapse when all trees do. -/
theorem Prepared.collapse_eq_ok_iff {out : Simplified} :
    p.collapse = .ok out ↔ ∃ outcomes acc,
      collapseRoots (.ofList p.accumulator.keys) p.namespaces p.accumulator = .ok (outcomes, acc) ∧
        out = .assemble p.excluded acc := by
  unfold Prepared.collapse
  cases collapseRoots (.ofList p.accumulator.keys) p.namespaces p.accumulator with
  | error e =>
    constructor
    · intro h
      exact absurd h nofun
    · rintro ⟨_, _, h, -⟩
      exact absurd h nofun
  | ok r =>
    constructor
    · intro h
      exact ⟨r.1, r.2, rfl, (Except.ok.inj h).symm⟩
    · rintro ⟨_, _, h, rfl⟩
      obtain rfl := Except.ok.inj h
      rfl

/-- **A pass over independent folders** is the recursion on what preparation makes of them. -/
theorem simplify_eq_collapse (resolver : Resolver) (hi : Independent (declaredFolders folders)) :
    simplify resolver folders = (Prepared.ofFolders resolver folders).collapse := by
  obtain ⟨notes, htaken⟩ := takeIn_eq_ok resolver hi []
  rw [simplify_eq_collapsePass, collapsePass, ← sortByPath_eq_insertionSort, htaken, Prepared.collapse]
  simp only [Simplified.assemble_eq_insertionSort]

/-- **To evaluate a pass,** evaluate the recursion. -/
theorem exists_simplify_of_any {test : Simplified → Bool}
    (h : (collapsePass resolver folders).toOption.any test = true) :
    ∃ out, simplify resolver folders = .ok out ∧ test out = true := by
  rw [simplify_eq_collapsePass]
  cases hpass : collapsePass resolver folders with
  | error e => simp [hpass, Except.toOption] at h
  | ok out => exact ⟨out, rfl, by simpa [hpass, Except.toOption] using h⟩

end RootFold
