import RootFold.Proofs.Merge.Restriction
import RootFold.Proofs.Namespace.Teaching
import RootFold.Proofs.Pass.InputOrder

/-!
# `RootFold.Proofs.Pass.Separation` — separate trees do not influence each other

All folders of a pass share one memory of answers, one list of known namespaces, one graph, and one accumulator; and what
is learned from a file is noted upward. But a climb stays in its tree. So as long as files lie inside their folders, all
that is shared can be cut down to a grove: the pass over the folders of the grove starts from the part of what the whole
pass starts from, and ends with the part of its result.

## Contents
- **What is known.** `Grove.foldersIn`, and what they teach: `NamespaceCache.lookup_learned_foldersIn`.
- **What is held.** `Accumulator.within_holding`, `Accumulator.values_within`.
- **The part of a pass.** From `Prepared.partOf_foldersIn` to `simplify_foldersIn`.
- **Two passes.** `simplify_append`.
-/

namespace RootFold

variable {grove : Grove} {resolver : Resolver} {folders left right : List Folder} {f : Folder} {asked : List Path}
  {q : Path} {acc : Accumulator} {out : Simplified}

/-! ## What is known -/

/-- **The folders of a grove.** -/
def Grove.foldersIn (grove : Grove) (folders : List Folder) : List Folder := folders.filter fun f => grove.holds f.path

theorem Grove.mem_foldersIn : f ∈ grove.foldersIn folders ↔ f ∈ folders ∧ grove.holds f.path = true := List.mem_filter

namespace Folder

/-- **A folder with its file inside** teaches about directories in its own tree. -/
theorem holds_of_taught (hhoused : f.wantsNamespacePrefix = true → f.Housed)
    (hself : f.wantsNamespacePrefix = true → firstSpelled asked f.representative = f.representative) (grove : Grove) :
    ∀ row ∈ f.taught resolver asked, grove.holds row.1 = grove.holds f.path := by
  intro row hrow
  have hteaches : f.Teaches resolver row.1 row.2 := (exists_taught_iff hself).1 ⟨row, hrow, BEq.rfl, BEq.rfl⟩
  rw [grove.holds_of_covers hteaches.covers_home, grove.holds_of_covers (hhoused hteaches.wants)]

end Folder

namespace NamespaceCache

/-- Independent folders with their files inside are asked about as they are spelled. -/
theorem firstSpelled_filesOf (hi : Independent folders)
    (hhoused : ∀ f ∈ folders, f.wantsNamespacePrefix = true → f.Housed) (hf : f ∈ folders)
    (hwants : f.wantsNamespacePrefix = true) : firstSpelled (filesOf folders) f.representative = f.representative := by
  apply firstSpelled_eq_self (filesOf_distinct hi hhoused)
  exact List.mem_map_of_mem (List.mem_filter.2 ⟨hf, hwants⟩)

/-- **About a directory of a grove** the folders of the grove teach all that is known. -/
theorem lookup_learned_foldersIn (resolver : Resolver) (hi : Independent folders)
    (hhoused : ∀ f ∈ folders, f.wantsNamespacePrefix = true → f.Housed) (hq : grove.holds q = true) :
    (learned resolver (grove.foldersIn folders)).lookup q = (learned resolver folders).lookup q := by
  have hself : ∀ f ∈ folders, f.wantsNamespacePrefix = true →
      firstSpelled (filesOf folders) f.representative = f.representative := fun f => firstSpelled_filesOf hi hhoused
  -- no two folders are looked up through one file, so fewer questions do not change an answer
  have htaught : ∀ f ∈ grove.foldersIn folders,
      f.taught resolver (filesOf (grove.foldersIn folders)) = f.taught resolver (filesOf folders) := by
    intro f hf
    apply Folder.taught_congr
    intro hwants
    have hpart : ∀ f ∈ grove.foldersIn folders, f.wantsNamespacePrefix = true → f.Housed := fun f hf =>
      hhoused f (Grove.mem_foldersIn.1 hf).1
    have hiPart : Independent (grove.foldersIn folders) := hi.filter _
    rw [firstSpelled_filesOf hiPart hpart hf hwants, hself f (Grove.mem_foldersIn.1 hf).1 hwants]
  have hrows : ∀ f ∈ folders, ∀ row ∈ f.taught resolver (filesOf folders), grove.holds row.1 = grove.holds f.path :=
    fun f hf => Folder.holds_of_taught (hhoused f hf) (hself f hf) grove
  rw [lookup_learned, lookup_learned, List.flatMap_congr htaught, Grove.foldersIn, grove.find?_flatMap_filter hrows hq]

end NamespaceCache

/-! ## What is held -/

namespace Accumulator

/-- The folders of a grove are held in the part of the grove. -/
theorem within_holding (acc : Accumulator) (folders : List Folder) (grove : Grove) :
    PathMap.within (acc.holding folders) grove = holding (acc.within grove) (grove.foldersIn folders) := by
  induction folders generalizing acc with
  | nil => rfl
  | cons f rest ih =>
    rw [holding, List.foldl_cons, ← holding, ih, PathMap.within_insert, Grove.foldersIn, Grove.foldersIn]
    cases hf : grove.holds f.path with
    | true =>
      rw [List.filter_cons_of_pos (p := fun f : Folder => grove.holds f.path) hf, if_pos rfl]
      rfl
    | false => rw [List.filter_cons_of_neg (by simp [hf]), if_neg Bool.false_ne_true]

theorem values_within (h : acc.KeyedByPath) (grove : Grove) :
    PathMap.values (acc.within grove) = grove.foldersIn acc.values := by
  have hkey : acc.entries.filter (fun e => grove.holds e.1) = acc.entries.filter fun e => grove.holds e.2.path :=
    List.filter_congr fun e he => grove.congr (h e he)
  show (acc.entries.filter fun e => grove.holds e.1).map (·.2) = (acc.entries.map (·.2)).filter _
  rw [hkey, List.filter_map]
  rfl

end Accumulator

/-! ## The part of a pass -/

theorem declaredFolders_sortByPath_foldersIn (grove : Grove) (folders : List Folder) :
    declaredFolders (sortByPath (grove.foldersIn folders)) = grove.foldersIn (declaredFolders (sortByPath folders)) := by
  rw [Grove.foldersIn, ← filter_sortByPath]
  exact List.filter_comm _ _ _

namespace Prepared

theorem excluded_foldersIn (resolver : Resolver) (grove : Grove) (folders : List Folder) :
    (ofFolders resolver (grove.foldersIn folders)).excluded = grove.foldersIn (ofFolders resolver folders).excluded := by
  show (sortByPath (grove.foldersIn folders)).filter _ = grove.foldersIn ((sortByPath folders).filter _)
  rw [Grove.foldersIn, ← filter_sortByPath]
  exact List.filter_comm _ _ _

theorem accumulator_foldersIn (resolver : Resolver) (grove : Grove) (folders : List Folder) :
    (ofFolders resolver (grove.foldersIn folders)).accumulator =
      (ofFolders resolver folders).accumulator.within grove := by
  show Accumulator.holding .empty (declaredFolders (sortByPath _)) = _
  rw [declaredFolders_sortByPath_foldersIn]
  exact (Accumulator.within_holding .empty _ grove).symm

/-- **What preparation makes of the folders of a grove** is the part of what it makes of all folders. -/
theorem partOf_foldersIn (resolver : Resolver) (hi : Independent (declaredFolders folders))
    (hhoused : ∀ f ∈ declaredFolders folders, f.wantsNamespacePrefix = true → f.Housed) (grove : Grove) :
    PartOf grove (.ofList (ofFolders resolver folders).accumulator.keys)
      (.ofList (ofFolders resolver (grove.foldersIn folders)).accumulator.keys)
      (ofFolders resolver folders).namespaces (ofFolders resolver (grove.foldersIn folders)).namespaces where
  linked := AncestryGraph.linked_ofList _
  linked' := AncestryGraph.linked_ofList _
  nodes q := by rw [accumulator_foldersIn, PathMap.keys_within, AncestryGraph.mem_nodes_ofList_filter]
  lookup q hq := by
    have hhoused' : ∀ f ∈ declaredFolders (sortByPath folders), f.wantsNamespacePrefix = true → f.Housed := fun f hf =>
      hhoused f ((declaredFolders_sortByPath_perm folders).mem_iff.1 hf)
    show (NamespaceCache.learned _ (declaredFolders (sortByPath _))).lookup q = _
    rw [declaredFolders_sortByPath_foldersIn]
    exact NamespaceCache.lookup_learned_foldersIn resolver (independent_sortByPath_iff.2 hi) hhoused' hq

end Prepared

theorem Simplified.foldersIn_assemble (excluded : List Folder) (h : acc.KeyedByPath) (grove : Grove) :
    grove.foldersIn (assemble excluded acc).folders =
      (assemble (grove.foldersIn excluded) (acc.within grove)).folders := by
  unfold assemble
  rw [Accumulator.values_within h, Grove.foldersIn, filter_mergeSort folderLe_trans folderLe_total, List.filter_append]
  rfl

/-- **The part of a pass.** If files lie inside their folders, a pass over the folders of a grove makes of them what a
    pass over all folders makes of them. -/
theorem simplify_foldersIn (grove : Grove) (h : simplify resolver folders = .ok out)
    (hhoused : ∀ f ∈ declaredFolders folders, f.wantsNamespacePrefix = true → f.Housed) :
    simplify resolver (grove.foldersIn folders) = .ok ⟨grove.foldersIn out.folders⟩ := by
  have hi := independent_of_simplify h
  have hiPart : Independent (declaredFolders (grove.foldersIn folders)) := by
    rw [← independent_sortByPath_iff, declaredFolders_sortByPath_foldersIn]
    exact (independent_sortByPath_iff.2 hi).filter _
  have hpart := Prepared.partOf_foldersIn resolver hi hhoused grove
  have hkeyed := (registered_ofFolders resolver hi).keyedByPath
  -- both passes take all their trees, the one in the whole and the other in the part
  rw [simplify_eq_collapse resolver hi] at h
  obtain ⟨outcomes, acc, hall, rfl⟩ := Prepared.collapse_eq_ok_iff.1 h
  rw [collapseRoots_eq] at hall
  obtain ⟨outcomes', hall'⟩ := hpart.mapM_roots hkeyed hall
  have hkeyed' : acc.KeyedByPath := ((local_mapM (hpart.linked.local_roots _)).keeps hkeyed hall).1
  rw [simplify_eq_collapse resolver hiPart, Simplified.foldersIn_assemble _ hkeyed', ← Prepared.excluded_foldersIn]
  apply Prepared.collapse_eq_ok_iff.2
  rw [← Prepared.accumulator_foldersIn, ← collapseRoots_eq] at hall'
  exact ⟨outcomes', _, hall', rfl⟩

/-! ## Two passes -/

/-- **Folders of two lists have no tree in common.** -/
def Separate (left right : List Folder) : Prop :=
  ∀ f ∈ left, ∀ g ∈ right, ¬ (f.path.topmost == g.path.topmost) = true

namespace Separate

/-- The trees of the first list. -/
def trees (left : List Folder) : Grove := .treesOf (left.map (·.path))

theorem holds_trees (hf : f ∈ left) : (trees left).holds f.path = true :=
  Grove.holds_treesOf_iff.2 ⟨f.path, List.mem_map_of_mem hf, BEq.rfl⟩

theorem not_holds_trees (h : Separate left right) (hf : f ∈ right) : (trees left).holds f.path = false := by
  rw [← Bool.not_eq_true]
  intro hheld
  obtain ⟨p, hp, hpf⟩ := Grove.holds_treesOf_iff.1 hheld
  obtain ⟨g, hg, rfl⟩ := List.mem_map.1 hp
  exact h g hg f hf hpf

/-- The first list has all folders that are in its trees. -/
theorem foldersIn_trees (h : Separate left right) : (trees left).foldersIn (left ++ right) = left := by
  rw [Grove.foldersIn, List.filter_append, List.filter_eq_self.2 fun f hf => holds_trees hf,
    List.filter_eq_nil_iff.2 fun f hf => by simp [h.not_holds_trees hf], List.append_nil]

/-- The second list has all others. -/
theorem foldersIn_compl_trees (h : Separate left right) : (trees left).compl.foldersIn (left ++ right) = right := by
  rw [Grove.foldersIn, List.filter_append, List.filter_eq_nil_iff.2 fun f hf => by simp [holds_trees hf],
    List.filter_eq_self.2 fun f hf => by simp [h.not_holds_trees hf], List.nil_append]

/-- Folders without a common tree do not get in each other's way. -/
theorem independent (h : Separate left right) (hleft : Independent left) (hright : Independent right) :
    Independent (left ++ right) := by
  refine List.pairwise_append.2 ⟨hleft, hright, fun f hf g hg => ?_⟩
  -- where one folder covers another they are in one tree
  have hother : (trees left).holds f.path ≠ (trees left).holds g.path := by
    rw [holds_trees hf, h.not_holds_trees hg]
    simp
  exact ⟨fun hc => hother (Grove.holds_of_covers _ hc), fun hc => hother (Grove.holds_of_covers _ hc).symm⟩

end Separate

/-- A result without excluded folders has its folders in path order. -/
theorem folders_eq_sortByPath (h : simplify resolver folders = .ok out) (hdeclared : ∀ f ∈ folders, f.isExcluded = false)
    {parts : List Folder} (hperm : out.folders.Perm parts) : out.folders = sortByPath parts := by
  have hmerged : out.merged = out.folders := by
    apply List.filter_eq_self.2
    intro f hf
    rw [← declaredFolders_eq_self hdeclared] at h
    simp [not_isExcluded_of_simplify h f hf]
  have hd : Distinct out.folders := by
    rw [← hmerged]
    exact (independent_iff.1 (condensed_of_simplify h).independent).1
  have hsorted : out.folders.Pairwise fun a b => a.path.le b.path = true := by
    obtain ⟨acc, rfl, -⟩ := simplify_eq_ok h
    exact (Simplified.folders_sorted _ acc).imp Simplified.path_le_of_folderLe
  exact eq_of_perm_of_sorted hd (hperm.trans (List.mergeSort_perm parts _).symm) hsorted (sortByPath_sorted parts)

/-- **A pass over both lists** is two passes, one over each. -/
theorem simplify_parts (hdeclared : ∀ f ∈ left ++ right, f.isExcluded = false)
    (hhoused : ∀ f ∈ left ++ right, f.wantsNamespacePrefix = true → f.Housed) (hapart : Separate left right)
    (h : simplify resolver (left ++ right) = .ok out) :
    ∃ outLeft outRight, simplify resolver left = .ok outLeft ∧ simplify resolver right = .ok outRight ∧
      out.folders = sortByPath (outLeft.folders ++ outRight.folders) := by
  have hhoused' : ∀ f ∈ declaredFolders (left ++ right), f.wantsNamespacePrefix = true → f.Housed := fun f hf =>
    hhoused f (List.mem_filter.1 hf).1
  have hleft := simplify_foldersIn (Separate.trees left) h hhoused'
  have hright := simplify_foldersIn (Separate.trees left).compl h hhoused'
  rw [hapart.foldersIn_trees] at hleft
  rw [hapart.foldersIn_compl_trees] at hright
  refine ⟨_, _, hleft, hright, folders_eq_sortByPath h hdeclared ?_⟩
  exact (List.filter_append_perm (fun f : Folder => (Separate.trees left).holds f.path) out.folders).symm

/-- **Separate trees do not influence each other.** If two lists of folders that are not excluded have no tree in common,
    and the members of folders that want a prefix lie inside them, a pass over both lists succeeds exactly when the passes
    over each do; its folders are those of both results, in path order. -/
theorem simplify_append (resolver : Resolver) (hdeclared : ∀ f ∈ left ++ right, f.isExcluded = false)
    (hinside : ∀ f ∈ left ++ right, f.wantsNamespacePrefix = true →
      ∀ x ∈ f.members.toList, ∃ a ∈ x.ancestors, (f.path == a) = true)
    (hapart : ∀ f ∈ left, ∀ g ∈ right, ¬ (f.path.topmost == g.path.topmost) = true) (out : Simplified) :
    simplify resolver (left ++ right) = .ok out ↔
      ∃ outLeft outRight, simplify resolver left = .ok outLeft ∧ simplify resolver right = .ok outRight ∧
        out.folders = sortByPath (outLeft.folders ++ outRight.folders) := by
  have hhoused : ∀ f ∈ left ++ right, f.wantsNamespacePrefix = true → f.Housed := fun f hf hwants =>
    Folder.housed_of_inside (hinside f hf hwants)
  constructor
  · exact simplify_parts hdeclared hhoused hapart
  · rintro ⟨outLeft, outRight, hleft, hright, hfolders⟩
    have hi : Independent (declaredFolders (left ++ right)) := by
      have hileft := independent_of_simplify hleft
      have hiright := independent_of_simplify hright
      rw [declaredFolders_eq_self fun f hf => hdeclared f (List.mem_append_left _ hf)] at hileft
      rw [declaredFolders_eq_self fun f hf => hdeclared f (List.mem_append_right _ hf)] at hiright
      rw [declaredFolders_eq_self hdeclared]
      exact Separate.independent hapart hileft hiright
    -- the pass over both succeeds, so it is the two passes that are known
    obtain ⟨acc, heq, -⟩ := exists_simplify resolver hi
    obtain ⟨outLeft', outRight', hleft', hright', hfolders'⟩ := simplify_parts hdeclared hhoused hapart heq
    obtain rfl := Except.ok.inj (hleft.symm.trans hleft')
    obtain rfl := Except.ok.inj (hright.symm.trans hright')
    rw [heq]
    congr 1
    rw [← hfolders] at hfolders'
    exact congrArg Simplified.mk hfolders'

/-- Two folders in one tree, one of them with a file. -/
def appFolders : List Folder :=
  [.ofKind .source (.ofText "app/a"),
    { Folder.ofKind .source (.ofText "app/b") with members := PathSet.empty.insert (.ofText "app/b/Main.java") }]

/-- A folder in another tree. -/
def libFolders : List Folder := [.ofKind .source (.ofText "lib/c")]

theorem simplify_append_appAndLib :
    ∃ outApp outLib out, simplify .directory appFolders = .ok outApp ∧ simplify .directory libFolders = .ok outLib ∧
      simplify .directory (appFolders ++ libFolders) = .ok out ∧
      out.folders = sortByPath (outApp.folders ++ outLib.folders) ∧ out.size = 2 := by
  have happOne : (collapsePass .directory appFolders).toOption.any (fun out => out.size == 1) = true := by
    decide +kernel
  have hlibOne : (collapsePass .directory libFolders).toOption.any (fun out => out.size == 1) = true := by
    decide +kernel
  obtain ⟨outApp, happ, happSize⟩ := exists_simplify_of_any happOne
  obtain ⟨outLib, hlib, hlibSize⟩ := exists_simplify_of_any hlibOne
  have hboth := (simplify_append .directory (by decide) (by decide +kernel) (by decide +kernel)
    ⟨sortByPath (outApp.folders ++ outLib.folders)⟩).2 ⟨outApp, outLib, happ, hlib, rfl⟩
  refine ⟨outApp, outLib, _, happ, hlib, hboth, rfl, ?_⟩
  rw [Simplified.size, sortByPath, List.length_mergeSort, List.length_append]
  exact congrArg₂ (· + ·) (eq_of_beq happSize) (eq_of_beq hlibSize)

end RootFold
