import RootFold.Proofs.Ancestry.PostOrder
import RootFold.Proofs.Merge.Node

/-!
# `RootFold.Proofs.Merge.Waiting` — every outcome is there when it is wanted

A walk puts down the outcome of each directory and takes it up again, once, at the directory above; one that is not
there is an error. The order of the walk rules this out. After some directories were walked the outcomes that wait are
those of the walked directories whose parent was not: so at a directory's turn all its children's outcomes wait, and
when the last one was walked only that of the root does. What else the walk may find wrong does not matter here: nothing
is assumed about the folders that are held or about the namespaces.

## Contents
- **Failures.** `MissesNone` and its rules; `mergeNode_missesNone`.
- **What waits.** `Pending`; `takeOutcomes_of_pending`.
- **Walks.** One step `stepNode_pending`, many steps `foldlM_stepNode_pending`, and `walk_missesNone`.
- **The order of a walk.** `postOrder_serves_walk`.
-/

namespace RootFold

variable {ns : NamespaceCache} {g : AncestryGraph} {α β : Type} {s : Pass} {node root p q c : Path}
  {before later : List Path} {finished : Finished} {outcomes : List Outcome}

/-! ## Failures -/

/-- **A run that misses no outcome:** its result has a property if it succeeds, and it does not fail because a
    directory was not walked. -/
def MissesNone (P : α → Prop) : EStateM.Result Error Pass α → Prop
  | .ok a _ => P a
  | .error e _ => ∀ p, e ≠ .inconsistent (.notWalked p)

namespace MissesNone

/-- **Two parts of a pass,** one after the other. -/
theorem bind {P : α → Prop} {Q : β → Prop} {x : PassM α} {f : α → PassM β} (h : MissesNone P (x s))
    (hf : ∀ a s', P a → MissesNone Q (f a s')) : MissesNone Q ((x >>= f) s) := by
  cases hx : x s with
  | ok a s' =>
    rw [hx] at h
    rw [bind_ok hx]
    exact hf a s' h
  | error e s' =>
    rw [hx] at h
    rw [bind_error hx]
    exact h

theorem pure {P : α → Prop} {a : α} (h : P a) : MissesNone P ((Pure.pure a : PassM α) s) := h

theorem note (notes : List Note) : MissesNone (fun _ => True) (PassM.note notes s) := trivial

theorem ofExcept {r : Except Error α} (h : ∀ p, r ≠ .error (.inconsistent (.notWalked p))) :
    MissesNone (fun a => r = .ok a) (PassM.ofExcept r s) := by
  cases r with
  | ok a => exact rfl
  | error e =>
    intro p he
    exact h p (congrArg Except.error he)

end MissesNone

theorem verdict_ne_notWalked (parent child : Folder) (ns : NamespaceCache) (p : Path) :
    verdict parent child ns ≠ .error (.inconsistent (.notWalked p)) := by
  unfold verdict
  split <;> exact nofun

theorem merge_ne_notWalked (a b : Folder) (p : Path) : a.merge b ≠ .error (.inconsistent (.notWalked p)) := by
  unfold Folder.merge
  split
  · exact nofun
  · split
    split <;> exact nofun

theorem mergeAll_ne_notWalked (template : Folder) (children : List Folder) (p : Path) :
    mergeAll template children ≠ .error (.inconsistent (.notWalked p)) := by
  unfold mergeAll
  induction children generalizing template with
  | nil => exact nofun
  | cons child rest ih =>
    rw [List.foldlM_cons]
    cases hmerge : child.merge template with
    | ok merged => exact ih merged
    | error e =>
      intro he
      exact merge_ne_notWalked child template p (hmerge.trans he)

theorem absorbAll_missesNone (ns : NamespaceCache) (node : Path) (template : Folder) (children : List Folder) (s : Pass) :
    MissesNone (fun _ => True) (absorbAll ns node template children s) := by
  induction children generalizing s with
  | nil => exact trivial
  | cons child rest ih =>
    unfold absorbAll
    refine (MissesNone.ofExcept (verdict_ne_notWalked template child ns)).bind fun v s₁ _ => ?_
    refine (MissesNone.note v.notes).bind fun _ s₂ _ => ?_
    split
    · exact ih s₂
    · exact (MissesNone.note _).bind fun _ _ _ => trivial

/-- **The decision about a directory** may fail, but not because a directory was not walked. -/
theorem mergeNode_missesNone (ns : NamespaceCache) (node : Path) (outcomes : List Outcome) (s : Pass) :
    MissesNone (fun _ => True) (mergeNode ns node outcomes s) := by
  rw [mergeNode]
  cases allMerged? outcomes with
  | none => exact (MissesNone.note _).bind fun _ _ _ => trivial
  | some folders =>
    cases folders with
    | nil =>
      simp only
      rw [bind_ok (show (get : PassM Pass) s = .ok s s from rfl)]
      cases s.accumulator.find? node with
      | some folder => exact trivial
      | none =>
        intro p he
        cases he
    | cons first rest =>
      simp only
      rw [bind_ok (show (get : PassM Pass) s = .ok s s from rfl)]
      cases s.accumulator.contains node with
      | true =>
        intro p he
        cases he
      | false =>
        refine (absorbAll_missesNone ns node (first.relocated node) (first :: rest) s).bind fun b s₁ _ => ?_
        cases b with
        | false => exact trivial
        | true =>
          refine (MissesNone.ofExcept (mergeAll_ne_notWalked (first.relocated node) (first :: rest))).bind
            fun folder s₂ _ => ?_
          exact (MissesNone.note _).bind fun _ _ _ => trivial

/-! ## What waits -/

/-- **The outcomes that wait** after some directories were walked are those of the walked ones whose parent was not. -/
def Pending (walked : List Path) (finished : Finished) : Prop :=
  ∀ q, finished.contains q = true ↔ (∃ n ∈ walked, (n == q) = true) ∧ ∀ n ∈ walked, ¬ q.LiesIn n

theorem pending_empty : Pending [] .empty := by
  intro q
  constructor
  · exact nofun
  · rintro ⟨⟨n, hn, -⟩, -⟩
    exact absurd hn List.not_mem_nil

/-- **At a directory's turn** the outcomes of its children wait, and taking them up leaves all others. -/
theorem takeOutcomes_of_pending (hg : g.Linked) (hroot : g.contains root = true)
    (h : g.postOrder root = before ++ node :: later) (hp : Pending before finished) :
    ∃ outcomes left, takeOutcomes finished (g.children node) = .ok (outcomes, left) ∧
      outcomes.map some = (g.children node).map finished.find? ∧
      ∀ q, left.contains q = true ↔ finished.contains q = true ∧ ¬ q.LiesIn node := by
  have hdistinct : (g.children node).Pairwise fun a b => ¬ (a == b) = true :=
    (hg.children_sorted node).imp Path.not_beq_of_lt
  have hwaits : ∀ c ∈ g.children node, finished.contains c = true := by
    intro c hc
    obtain ⟨hmem, hlies⟩ := hg.mem_children.1 hc
    refine (hp c).2 ⟨⟨c, hg.mem_before_of_liesIn hroot h hmem hlies, BEq.rfl⟩, fun n hn hcn => ?_⟩
    -- a child has one parent, and this one's turn has only come
    exact hg.not_covers_of_before hroot h hn (.of_beq (hcn.beq hlies))
  obtain ⟨outcomes, left, htake, hmap, hleft⟩ :=
    exists_takeOutcomes hdistinct fun c hc => Option.isSome_iff_exists.1 (hwaits c hc)
  refine ⟨outcomes, left, htake, hmap, fun q => ?_⟩
  have hchild : finished.contains q = true → ((g.children node).any (q == ·) = true ↔ q.LiesIn node) := by
    intro hq
    obtain ⟨⟨n, hn, hnq⟩, -⟩ := (hp q).1 hq
    rw [List.any_eq_true]
    constructor
    · rintro ⟨c, hc, hqc⟩
      exact (Path.LiesIn.congr hqc BEq.rfl).2 (hg.mem_children.1 hc).2
    · intro hlies
      have hnode : n ∈ g.nodes := by
        have hlisted : n ∈ g.postOrder root := h ▸ List.mem_append_left _ hn
        exact ((hg.mem_postOrder hroot).1 hlisted).1
      exact ⟨n, hg.mem_children.2 ⟨hnode, (Path.LiesIn.congr hnq BEq.rfl).2 hlies⟩, BEq.symm hnq⟩
  unfold PathMap.contains at hchild ⊢
  rw [hleft]
  by_cases hany : (g.children node).any (q == ·) = true
  · rw [if_pos hany]
    exact iff_of_false Bool.false_ne_true fun hq => hq.2 ((hchild hq.1).1 hany)
  · rw [if_neg hany]
    exact ⟨fun hq => ⟨hq, fun hlies => hany ((hchild hq).2 hlies)⟩, And.left⟩

/-- What waits when a directory was walked as well. -/
theorem Pending.step (hg : g.Linked) (hroot : g.contains root = true) (h : g.postOrder root = before ++ node :: later)
    (hp : Pending before finished) {left : Finished}
    (hleft : ∀ q, left.contains q = true ↔ finished.contains q = true ∧ ¬ q.LiesIn node) (o : Outcome) :
    Pending (before ++ [node]) (left.insert node o) := by
  intro q
  rw [PathMap.contains_insert, Bool.or_eq_true, hleft, hp q]
  constructor
  · rintro (hq | ⟨⟨⟨n, hn, hnq⟩, hbefore⟩, hnot⟩)
    · refine ⟨⟨node, by simp, BEq.symm hq⟩, fun n hn hlies => ?_⟩
      rcases List.mem_append.1 hn with hn | hn
      · exact hg.not_covers_of_before hroot h hn ((Path.Covers.congr BEq.rfl hq).1 hlies.covers)
      · rw [List.mem_singleton.1 hn] at hlies
        exact hlies.not_beq (BEq.symm hq)
    · refine ⟨⟨n, List.mem_append_left _ hn, hnq⟩, fun n hn => ?_⟩
      rcases List.mem_append.1 hn with hn | hn
      · exact hbefore n hn
      · exact List.mem_singleton.1 hn ▸ hnot
  · rintro ⟨⟨n, hn, hnq⟩, hnone⟩
    rcases List.mem_append.1 hn with hn | hn
    · exact .inr ⟨⟨⟨n, hn, hnq⟩, fun m hm => hnone m (List.mem_append_left _ hm)⟩, hnone node (by simp)⟩
    · exact .inl (BEq.symm (List.mem_singleton.1 hn ▸ hnq))

/-! ## Walks -/

/-- **One step** finds what it takes up. -/
theorem stepNode_pending (hg : g.Linked) (hroot : g.contains root = true)
    (h : g.postOrder root = before ++ node :: later) (hp : Pending before finished) (ns : NamespaceCache) (s : Pass) :
    MissesNone (Pending (before ++ [node])) (stepNode g ns finished node s) := by
  obtain ⟨outcomes, left, htake, -, hleft⟩ := takeOutcomes_of_pending hg hroot h hp
  unfold stepNode
  rw [htake, bind_ok (PassM.ofExcept_ok _ s)]
  exact (mergeNode_missesNone ns node outcomes s).bind fun o _ _ => .pure (hp.step hg hroot h hleft o)

/-- **The steps so far** leave what waits, at any place of the walk. -/
theorem foldlM_stepNode_pending (hg : g.Linked) (hroot : g.contains root = true) (ns : NamespaceCache)
    {nodes : List Path} (h : g.postOrder root = before ++ nodes ++ later) (hp : Pending before finished) (s : Pass) :
    MissesNone (Pending (before ++ nodes)) (nodes.foldlM (stepNode g ns) finished s) := by
  induction nodes generalizing before finished s with
  | nil =>
    rw [List.append_nil]
    exact .pure hp
  | cons node rest ih =>
    have hhere : g.postOrder root = before ++ node :: (rest ++ later) := by
      rw [h, List.append_assoc, List.cons_append]
    have hthen : g.postOrder root = before ++ [node] ++ rest ++ later := by
      rw [h, List.append_assoc before [node], List.singleton_append]
    rw [List.foldlM_cons]
    refine (stepNode_pending hg hroot hhere hp ns s).bind fun finished' s' hp' => ?_
    have hrest := ih hthen hp' s'
    rwa [List.append_assoc, List.singleton_append] at hrest

/-- **A walk misses no outcome,** neither on the way nor in the end. -/
theorem walk_missesNone (hg : g.Linked) (ns : NamespaceCache) (root : Path) (s : Pass) :
    MissesNone (fun _ => True) (walk g ns root s) := by
  cases hroot : g.contains root with
  | false =>
    rw [walk, hroot, if_pos (by simp)]
    exact nofun
  | true =>
    have hall : g.postOrder root = [] ++ g.postOrder root ++ [] := by rw [List.nil_append, List.append_nil]
    rw [walk, hroot, if_neg (by simp)]
    refine (foldlM_stepNode_pending hg hroot ns hall pending_empty s).bind fun finished s' hp => ?_
    -- the root's outcome waits, since no directory that was walked lies above it
    obtain ⟨n, hn, hnroot⟩ := AncestryGraph.contains_iff.1 hroot
    have hlisted : n ∈ g.postOrder root := (hg.mem_postOrder hroot).2 ⟨hn, .of_beq (BEq.symm hnroot)⟩
    have hwaits : finished.contains root = true := by
      refine (hp root).2 ⟨⟨n, hlisted, hnroot⟩, fun m hm hlies => ?_⟩
      exact hlies.not_covers ((hg.mem_postOrder hroot).1 hm).2
    obtain ⟨o, ho⟩ := Option.isSome_iff_exists.1 hwaits
    rw [ho]
    exact trivial

/-! ## The order of a walk -/

/-- Every directory of a tree but its root is a child of one directory of the tree. -/
theorem existsUnique_parent (hg : g.Linked) (hroot : g.contains root = true) (hc : c ∈ g.postOrder root)
    (hne : ¬ (root == c) = true) : ∃! m, m ∈ g.postOrder root ∧ c ∈ g.children m := by
  obtain ⟨hmem, hcov⟩ := (hg.mem_postOrder hroot).1 hc
  rcases Path.covers_iff_parentDir?.1 hcov with he | ⟨m, hm, hrootm⟩
  · exact absurd he hne
  · have hlies : c.LiesIn m := .of_parentDir? hm
    have hparent : g.contains m = true :=
      hg.contains_of_covers (AncestryGraph.contains_of_mem hmem) hlies.covers
    obtain ⟨n, hn, hnm⟩ := AncestryGraph.contains_iff.1 hparent
    have hinside : c.LiesIn n := (Path.LiesIn.congr BEq.rfl hnm).2 hlies
    refine ⟨n, ⟨?_, hg.mem_children.2 ⟨hmem, hinside⟩⟩, ?_⟩
    · exact (hg.mem_postOrder hroot).2 ⟨hn, hrootm.trans (.of_beq (BEq.symm hnm))⟩
    · rintro n' ⟨hn', hcn'⟩
      have hsame : (n' == n) = true := (hg.mem_children.1 hcn').2.beq hinside
      exact hg.toSound.eq_of_beq ((hg.mem_postOrder hroot).1 hn').1 hn hsame

/-- **The order of a walk, and what it is good for.** From a directory of a graph the walk lists the directories that it
    covers, each once and none before one that is inside it. Right before each stand the blocks of its children, by the
    age of their edges, and later insertions do not change whose turn is first. At the turn of each directory the
    outcomes of its children are found, and taken away with no other; and every directory but the root is a child
    of one in the list. So no walk, whatever the folders and the namespaces, ends because a directory was not walked. -/
theorem postOrder_serves_walk (paths : List Path) (hroot : (AncestryGraph.ofList paths).contains root = true) :
    let g := AncestryGraph.ofList paths
    (∀ q, q ∈ g.postOrder root ↔ q ∈ g.nodes ∧ root.Covers q) ∧
    ((g.postOrder root).Pairwise fun a b => ¬ (a == b) = true ∧ ¬ a.Covers b) ∧
    (∀ n, (g.childrenByAge n).Perm (g.children n) ∧
      ∀ more, g.childrenByAge n <+: (AncestryGraph.ofList (paths ++ more)).childrenByAge n) ∧
    (∀ before node later, g.postOrder root = before ++ node :: later →
      (∃ front, before = front ++ (g.childrenByAge node).flatMap g.postOrder) ∧
      ∀ ns s finished s', before.foldlM (stepNode g ns) .empty s = .ok finished s' →
        ∃ outcomes left, takeOutcomes finished (g.children node) = .ok (outcomes, left) ∧
          outcomes.map some = (g.children node).map finished.find? ∧
          ∀ q, left.contains q = true ↔ finished.contains q = true ∧ ¬ q.LiesIn node) ∧
    (∀ c ∈ g.postOrder root, ¬ (root == c) = true → ∃! m, m ∈ g.postOrder root ∧ c ∈ g.children m) ∧
    ∀ ns s p s', walk g ns root s ≠ .error (.inconsistent (.notWalked p)) s' := by
  intro g
  have hg : g.Linked := AncestryGraph.linked_ofList paths
  refine ⟨fun q => hg.mem_postOrder hroot, ?_, ?_, ?_, fun c hc hne => existsUnique_parent hg hroot hc hne, ?_⟩
  · refine (hg.postOrder_insideFirst hroot).imp fun {a b} hab => ⟨fun he => hab (.of_beq he), hab⟩
  · intro n
    exact ⟨(List.mergeSort_perm _ _).symm, fun more => AncestryGraph.childrenByAge_prefix paths more n⟩
  · intro before node later hcut
    refine ⟨hg.exists_blocks_before hroot hcut, fun ns s finished s' hrun => ?_⟩
    have hsofar : g.postOrder root = [] ++ before ++ node :: later := by rw [hcut, List.nil_append]
    have hp := foldlM_stepNode_pending hg hroot ns hsofar pending_empty s
    rw [hrun] at hp
    exact takeOutcomes_of_pending hg hroot hcut hp
  · intro ns s p s' hfail
    have hmisses := walk_missesNone hg ns root s
    rw [hfail] at hmisses
    exact hmisses p rfl

/-- Two trees. Of the directories in the first one the later one comes first in path order. -/
def twoTrees : List Path := [.ofText "src/b/c", .ofText "lib", .ofText "src//a"]

theorem postOrder_serves_walk_twoTrees :
    (AncestryGraph.ofList twoTrees).contains (.ofText "src/") = true ∧
      (∃ q ∈ (AncestryGraph.ofList twoTrees).postOrder (.ofText "src/"), (q == .ofText "src/a") = true) ∧
      .ofText "lib" ∉ (AncestryGraph.ofList twoTrees).postOrder (.ofText "src/") ∧
      ∀ s p s', walk (.ofList twoTrees) .empty (.ofText "src/") s ≠ .error (.inconsistent (.notWalked p)) s' := by
  have hroot : (AncestryGraph.ofList twoTrees).contains (.ofText "src/") = true := by decide +kernel
  obtain ⟨hmem, -, -, -, -, hwalk⟩ := postOrder_serves_walk twoTrees hroot
  have hnode : (AncestryGraph.ofList twoTrees).contains (.ofText "src/a") = true := by decide +kernel
  refine ⟨hroot, ?_, ?_, fun s => hwalk .empty s⟩
  · obtain ⟨n, hn, hna⟩ := AncestryGraph.contains_iff.1 hnode
    have hcov : (Path.ofText "src/").Covers (.ofText "src/a") := Path.covers_iff.2 (by decide)
    exact ⟨n, (hmem n).2 ⟨hn, hcov.trans (.of_beq (BEq.symm hna))⟩, hna⟩
  · intro hlib
    exact absurd (Path.covers_iff.1 ((hmem _).1 hlib).2).1 (by decide)

end RootFold
