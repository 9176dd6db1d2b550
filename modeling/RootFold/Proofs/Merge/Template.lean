import RootFold.Proofs.Merge.Node

/-!
# `RootFold.Proofs.Merge.Template` — the choice of the template is immaterial

A directory compares the folders below it with one of them, moved up and without files, and never with each other. This
is enough: whoever passes the test agrees with the template on kind and flag, so it would have made the same template,
and the namespaces are those of the directory, whichever folder is moved there. With the template goes the order of the
folders, for what they are merged into has the files of all.

## Contents
- **Alike.** `Accumulator.Alike`, `DecidedAlike`.
- **Templates.** `Absorbs.relocated`, `forall_absorbs_relocated_iff`, `joined_beq`.
- **The decision.** `mergeNode_folders`, for any template; `mergeNode_template_immaterial`.
-/

namespace RootFold

variable {ns : NamespaceCache} {node : Path} {a b f g : Folder} {folders folders' : List Folder} {s : Pass}
  {acc acc' : Accumulator}

/-! ## Alike -/

/-- **The same folders are held,** up to spelling. -/
def Accumulator.Alike (acc acc' : Accumulator) : Prop :=
  ∀ q, Option.Rel (fun f f' : Folder => (f == f') = true) (acc.find? q) (acc'.find? q)

/-- **Two decisions are alike:** both block the directory, or both merge the folders below it into the same one; the
    same folders are held afterwards. Neither decision fails. -/
inductive DecidedAlike : EStateM.Result Error Pass Outcome → EStateM.Result Error Pass Outcome → Prop
  | blocked {s s' : Pass} : s.accumulator.Alike s'.accumulator → DecidedAlike (.ok .blocked s) (.ok .blocked s')
  | merged {f f' : Folder} {s s' : Pass} : (f == f') = true → s.accumulator.Alike s'.accumulator →
      DecidedAlike (.ok (.merged f) s) (.ok (.merged f') s')

theorem Accumulator.Alike.refl (acc : Accumulator) : acc.Alike acc := by
  intro q
  cases acc.find? q with
  | none => exact .none
  | some f => exact .some BEq.rfl

/-- One folder takes the place of several, in whatever order these are taken out. -/
theorem Accumulator.Alike.replace (h : acc.Alike acc') (hperm : folders.Perm folders') (hfg : (f == g) = true) :
    (acc.replace folders f).Alike (acc'.replace folders' g) := by
  obtain ⟨hpath, -⟩ := Folder.beq_iff.1 hfg
  exact rel_find?_replace h (fun _ => hperm.any_eq) hpath hfg

/-! ## Templates -/

/-- **A folder that may be absorbed** makes a template that may absorb as much. -/
theorem Absorbs.relocated (hb : Absorbs ns (a.relocated node) b) (hf : Absorbs ns (a.relocated node) f) :
    Absorbs ns (b.relocated node) f where
  kind := hb.kind.symm.trans hf.kind
  flag := hb.flag.symm.trans hf.flag
  follows hwants := hf.follows (hb.flag.trans hwants)

/-- Of some folders, each is as good a template as the others. -/
theorem forall_absorbs_relocated_iff (ha : a ∈ folders) (hb : b ∈ folders) :
    (∀ f ∈ folders, Absorbs ns (a.relocated node) f) ↔ ∀ f ∈ folders, Absorbs ns (b.relocated node) f := by
  constructor
  · intro h f hf
    exact (h b hb).relocated (h f hf)
  · intro h f hf
    exact (h a ha).relocated (h f hf)

/-- **One folder comes of it,** from any template and in any order. -/
theorem joined_beq (hb : Absorbs ns (a.relocated node) b) (hperm : folders.Perm folders') :
    (a.joined node folders == b.joined node folders') = true := by
  have hgathered := PathSet.gatheredFrom_gather folders
  have hgathered' := PathSet.gatheredFrom_gather folders'
  exact Folder.beq_iff.2 ⟨BEq.rfl, hb.kind, hb.flag, hgathered.beq hgathered' fun _ => hperm.mem_iff⟩

/-! ## The decision -/

/-- **The decision about some folders,** told with any of them as the template. -/
theorem mergeNode_folders (ns : NamespaceCache) (hin : ∀ f ∈ folders, node.IsAbove f.path)
    (hfree : s.accumulator.contains node = false) {template : Folder} (htemplate : template ∈ folders) :
    ((∀ f ∈ folders, Absorbs ns (template.relocated node) f) ∧
      ∃ f notes, (f == template.joined node folders) = true ∧
        mergeNode ns node (folders.map .merged) s = .ok (.merged f) ⟨s.accumulator.replace folders f, notes⟩) ∨
    ((¬ ∀ f ∈ folders, Absorbs ns (template.relocated node) f) ∧
      ∃ notes, mergeNode ns node (folders.map .merged) s = .ok .blocked ⟨s.accumulator, notes⟩) := by
  cases folders with
  | nil => exact absurd htemplate List.not_mem_nil
  | cons first rest =>
    have hsame : (∀ f ∈ first :: rest, Absorbs ns (first.relocated node) f) ↔
        ∀ f ∈ first :: rest, Absorbs ns (template.relocated node) f :=
      forall_absorbs_relocated_iff List.mem_cons_self htemplate
    rcases mergeNode_inside ns (allMerged?_map_merged (first :: rest)) hin hfree with
      ⟨habsorbs, notes, heq⟩ | ⟨hnot, hblocked⟩
    · have hbeq := joined_beq (habsorbs template htemplate) (.refl (first :: rest))
      exact .inl ⟨hsame.1 habsorbs, _, notes, hbeq, heq⟩
    · exact .inr ⟨fun h => hnot (hsame.2 h), hblocked⟩

theorem mergeNode_perm (ns : NamespaceCache) (hne : folders ≠ []) (hin : ∀ f ∈ folders, node.IsAbove f.path)
    (hfree : s.accumulator.contains node = false) (hperm : folders.Perm folders') :
    DecidedAlike (mergeNode ns node (folders.map .merged) s) (mergeNode ns node (folders'.map .merged) s) := by
  obtain ⟨template, htemplate⟩ := List.exists_mem_of_ne_nil folders hne
  have hin' : ∀ f ∈ folders', node.IsAbove f.path := fun f hf => hin f (hperm.mem_iff.2 hf)
  have hsame : (∀ f ∈ folders, Absorbs ns (template.relocated node) f) ↔
      ∀ f ∈ folders', Absorbs ns (template.relocated node) f := by
    simp only [hperm.mem_iff]
  -- one template for both orders
  rcases mergeNode_folders ns hin hfree htemplate with ⟨h, f, notes, hf, heq⟩ | ⟨hnot, notes, heq⟩
  · rcases mergeNode_folders ns hin' hfree (hperm.mem_iff.1 htemplate) with ⟨-, f', notes', hf', heq'⟩ | ⟨hnot', -⟩
    · have hjoined := joined_beq (h template htemplate) hperm
      have hff' : (f == f') = true := BEq.trans hf (BEq.trans hjoined (BEq.symm hf'))
      rw [heq, heq']
      exact .merged hff' (.replace (.refl _) hperm hff')
    · exact absurd (hsame.1 h) hnot'
  · rcases mergeNode_folders ns hin' hfree (hperm.mem_iff.1 htemplate) with ⟨h', -⟩ | ⟨-, notes', heq'⟩
    · exact absurd (hsame.2 h') hnot
    · rw [heq, heq']
      exact .blocked (.refl _)

/-- The folders merge when any of them, as the template, may absorb them all. -/
theorem mergeNode_merges_iff (ns : NamespaceCache) (hin : ∀ f ∈ folders, node.IsAbove f.path)
    (hfree : s.accumulator.contains node = false) {template : Folder} (htemplate : template ∈ folders) :
    (∃ f s', mergeNode ns node (folders.map .merged) s = .ok (.merged f) s') ↔
      ∀ f ∈ folders, Absorbs ns (template.relocated node) f := by
  rcases mergeNode_folders ns hin hfree htemplate with ⟨h, f, notes, -, heq⟩ | ⟨hnot, notes, heq⟩
  · exact ⟨fun _ => h, fun _ => ⟨f, _, heq⟩⟩
  · constructor
    · rintro ⟨f, s', hmerged⟩
      exact absurd (heq.symm.trans hmerged) nofun
    · intro h
      exact absurd h hnot

/-- **The choice of the template is immaterial.** Let some folders lie below a directory that is not itself held, at
    whatever depth. In any order they are decided alike, without a failure; any of them, moved to the directory, can
    serve as the template of the test; and if they merge, any two of them agree on kind and flag. -/
theorem mergeNode_template_immaterial (ns : NamespaceCache) (hne : folders ≠ [])
    (hin : ∀ f ∈ folders, ∃ n, node.nestingDepth? f.path = some n) (hfree : s.accumulator.contains node = false) :
    (∀ folders' : List Folder, folders.Perm folders' →
      DecidedAlike (mergeNode ns node (folders.map .merged) s) (mergeNode ns node (folders'.map .merged) s)) ∧
    (∀ template ∈ folders, (∃ f s', mergeNode ns node (folders.map .merged) s = .ok (.merged f) s') ↔
      ∀ f ∈ folders, canMerge (template.relocated node) f ns = .ok true) ∧
    ((∃ f s', mergeNode ns node (folders.map .merged) s = .ok (.merged f) s') →
      ∀ a ∈ folders, ∀ b ∈ folders, a.isCompatibleWith b = true) := by
  have habove : ∀ f ∈ folders, node.IsAbove f.path := fun f hf => Path.isAbove_iff_nestingDepth?.2 (hin f hf)
  refine ⟨fun folders' hperm => mergeNode_perm ns hne habove hfree hperm, ?_, ?_⟩
  · intro template htemplate
    rw [mergeNode_merges_iff ns habove hfree htemplate]
    refine forall₂_congr fun f hf => ?_
    exact (canMerge_eq_ok_true_iff ns (habove f hf).begins (habove f hf).shorter).symm
  · intro hmerges a ha b hb
    have hab : Absorbs ns (a.relocated node) b := (mergeNode_merges_iff ns habove hfree ha).1 hmerges b hb
    exact Folder.isCompatibleWith_iff.2 ⟨hab.kind, hab.flag⟩

/-- Two folders that have a file in common, which they spell in different ways. -/
def sharingFolders : List Folder :=
  [⟨.ofText "java/app", .source, true, .ofList [.ofText "java/app/A.java", .ofText "java//Shared.java"]⟩,
    ⟨.ofText "java/./lib/", .source, true, .ofList [.ofText "java/Shared.java"]⟩]

theorem mergeNode_template_immaterial_java :
    let namespaces : NamespaceCache := .place .empty [(.ofText "java", .ofText "org"),
      (.ofText "java/app", .ofText "org/app"), (.ofText "java/lib", .ofText "org/lib")]
    let held : Pass := ⟨.ofList (sharingFolders.map fun f => (f.path, f)), []⟩
    let decision (folders : List Folder) := mergeNode namespaces (.ofText "java/") (folders.map .merged) held
    (∃ f s', decision sharingFolders = .ok (.merged f) s') ∧
    DecidedAlike (decision sharingFolders) (decision sharingFolders.reverse) ∧
    ∀ a ∈ sharingFolders, ∀ b ∈ sharingFolders, a.isCompatibleWith b = true := by
  intro namespaces held decision
  have hin : ∀ f ∈ sharingFolders, ∃ n, (Path.ofText "java/").nestingDepth? f.path = some n := by
    intro f hf
    refine ⟨1, ?_⟩
    revert f
    decide
  have hfree : held.accumulator.contains (.ofText "java/") = false := by decide
  obtain ⟨halike, hmerges, hcompatible⟩ :=
    mergeNode_template_immaterial namespaces (List.cons_ne_nil _ _) hin hfree
  have hmerged : ∃ f s', decision sharingFolders = .ok (.merged f) s' := by
    refine (hmerges _ List.mem_cons_self).2 ?_
    exact List.forall_mem_cons.2 ⟨rfl, List.forall_mem_cons.2 ⟨rfl, nofun⟩⟩
  exact ⟨hmerged, halike _ (List.reverse_perm _).symm, hcompatible hmerged⟩

end RootFold
