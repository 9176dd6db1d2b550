import RootFold.Proofs.Merge.Assembly
import RootFold.Proofs.Merge.Walk

/-!
# `RootFold.Proofs.Merge.Recursion` — merging as a recursion over directories

What a walk is for can be said without a stack and without outcomes that wait: the directories directly inside one
are taken in path order, each with its whole tree, and then one rule decides about the directory itself. The rule
reads the folders at the directory and those that its children became, and changes nothing else. So does the
recursion in the directory's tree, and trees that have nothing in common can be taken in any order.

## Contents
- **The rule.** `collapseNode`, and all that it can do: `CollapseStep`, `collapseNode_eq_ok_iff`.
- **The recursion.** `AncestryGraph.sorted`, `collapseTree`, and its equation `Linked.collapseTree_eq`.
- **Locality.** `AgreeOn` and `Local`, from the rule to lists of trees to one tree: `local_collapseTree`.
- **Order.** `Together` says what trees do to the same folders; `mapM_eq_ok_iff`, `exists_mapM_perm`.
-/

namespace RootFold

variable {ns : NamespaceCache} {g : AncestryGraph} {p q c node : Path} {cs : List Path} {outcomes : List Outcome}
  {acc acc' acc₁ acc₂ : Accumulator} {o : Outcome} {f : Folder} {α β : Type}

/-- **A change of the folders that are held,** with a result; it may fail. -/
abbrev Collapsing := StateT Accumulator (Except Error)

/-! ## The rule -/

/-- **What becomes of a directory,** given what became of those directly inside it. A blocked one inside blocks it.
    With nothing inside it is the folder that is held there. Otherwise no folder may be held there, and if the first
    of the folders inside, relocated, may absorb each of them, one folder takes the place of all. -/
def collapseNode (ns : NamespaceCache) (node : Path) (outcomes : List Outcome) : Collapsing Outcome := fun acc =>
  if outcomes.any (·.isBlocked) then .ok (.blocked, acc)
  else
    match outcomes.filterMap (·.folder?) with
    | [] =>
      match acc.find? node with
      | some folder => .ok (.merged folder, acc)
      | none => .error (.inconsistent (.leafUndeclared node))
    | first :: rest =>
      if acc.contains node then .error (.inconsistent (.declaredAbove node))
      else do
        if ← (first :: rest).allM fun child => canMerge (first.relocated node) child ns then
          let folder := first.joined node (first :: rest)
          return (.merged folder, acc.replace (first :: rest) folder)
        else return (.blocked, acc)

/-- **All that the rule can do,** failures apart. -/
inductive CollapseStep (ns : NamespaceCache) (node : Path) : List Outcome → Accumulator → Outcome → Accumulator → Prop
  /-- A directory inside is blocked. -/
  | blockedBelow {outcomes : List Outcome} {acc : Accumulator} : .blocked ∈ outcomes →
      CollapseStep ns node outcomes acc .blocked acc
  /-- Nothing is inside. -/
  | leaf {acc : Accumulator} {f : Folder} : acc.find? node = some f → CollapseStep ns node [] acc (.merged f) acc
  /-- The folders inside do not fit together. -/
  | refused {acc : Accumulator} {first : Folder} {rest : List Folder} : acc.contains node = false →
      (¬ ∀ f ∈ first :: rest, Absorbs ns (first.relocated node) f) →
      CollapseStep ns node ((first :: rest).map .merged) acc .blocked acc
  /-- The folders inside become one. -/
  | joined {acc : Accumulator} {first : Folder} {rest : List Folder} : acc.contains node = false →
      (∀ f ∈ first :: rest, Absorbs ns (first.relocated node) f) →
      CollapseStep ns node ((first :: rest).map .merged) acc (.merged (first.joined node (first :: rest)))
        (acc.replace (first :: rest) (first.joined node (first :: rest)))

/-- Outcomes hold a blocked one or are those of some folders. -/
theorem blocked_mem_or_eq_map :
    ∀ outcomes : List Outcome, .blocked ∈ outcomes ∨ ∃ folders : List Folder, outcomes = folders.map .merged
  | [] => .inr ⟨[], rfl⟩
  | .blocked :: _ => .inl List.mem_cons_self
  | .merged f :: rest => by
    rcases blocked_mem_or_eq_map rest with h | ⟨folders, rfl⟩
    · exact .inl (List.mem_cons_of_mem _ h)
    · exact .inr ⟨f :: folders, rfl⟩

/-- The test has an answer for all folders inside a directory. -/
theorem exists_allM_canMerge (ns : NamespaceCache) {template : Folder} {folders : List Folder}
    (hin : ∀ f ∈ folders, f.path.LiesIn template.path) :
    ∃ b, (folders.allM fun f => canMerge template f ns) = .ok b ∧
      (b = true ↔ ∀ f ∈ folders, Absorbs ns template f) := by
  induction folders with
  | nil => exact ⟨true, rfl, by simp⟩
  | cons f rest ih =>
    obtain ⟨b, htest, hfav⟩ := exists_canMerge ns (hin f (by simp)).isAbove
    rw [List.allM, htest]
    cases b with
    | true =>
      obtain ⟨b, hrest, hiff⟩ := ih fun g hg => hin g (by simp [hg])
      refine ⟨b, hrest, ?_⟩
      rw [hiff, List.forall_mem_cons]
      exact ⟨fun h => ⟨hfav.1 rfl, h⟩, And.right⟩
    | false =>
      refine ⟨false, rfl, fun h => absurd h (by simp), fun h => ?_⟩
      exact absurd (hfav.2 (h f (by simp))) (by simp)

theorem collapseNode_of_blocked (h : .blocked ∈ outcomes) (acc : Accumulator) :
    collapseNode ns node outcomes acc = .ok (.blocked, acc) := by
  rw [collapseNode, if_pos (List.any_eq_true.2 ⟨.blocked, h, rfl⟩)]

theorem any_isBlocked_map_merged (folders : List Folder) :
    (folders.map Outcome.merged).any (·.isBlocked) = false := by
  rw [List.any_map, List.any_eq_false]
  exact fun _ _ => Bool.false_ne_true

theorem filterMap_folder?_map_merged (folders : List Folder) :
    (folders.map Outcome.merged).filterMap (·.folder?) = folders := by
  rw [List.filterMap_map]
  exact List.filterMap_some

/-- The rule for a directory with folders inside. -/
theorem collapseNode_inside (ns : NamespaceCache) {first : Folder} {rest : List Folder}
    (hin : ∀ f ∈ first :: rest, f.path.LiesIn node) (acc : Accumulator) :
    ∃ b, (b = true ↔ ∀ f ∈ first :: rest, Absorbs ns (first.relocated node) f) ∧
      collapseNode ns node ((first :: rest).map .merged) acc =
        if acc.contains node then .error (.inconsistent (.declaredAbove node))
        else if b then
          .ok (.merged (first.joined node (first :: rest)),
            acc.replace (first :: rest) (first.joined node (first :: rest)))
        else .ok (.blocked, acc) := by
  have hin' : ∀ f ∈ first :: rest, f.path.LiesIn (first.relocated node).path := hin
  obtain ⟨b, htest, hiff⟩ := exists_allM_canMerge ns hin'
  refine ⟨b, hiff, ?_⟩
  rw [collapseNode, any_isBlocked_map_merged, filterMap_folder?_map_merged, if_neg Bool.false_ne_true]
  simp only
  rw [htest]
  cases b <;> rfl

/-- **The rule succeeds** in these ways and no others. -/
theorem collapseNode_eq_ok_iff (hin : ∀ f, .merged f ∈ outcomes → f.path.LiesIn node) :
    collapseNode ns node outcomes acc = .ok (o, acc') ↔ CollapseStep ns node outcomes acc o acc' := by
  constructor
  · intro h
    rcases blocked_mem_or_eq_map outcomes with hblocked | ⟨folders, rfl⟩
    · rw [collapseNode_of_blocked hblocked] at h
      obtain ⟨rfl, rfl⟩ := Prod.mk.inj (Except.ok.inj h)
      exact .blockedBelow hblocked
    · cases folders with
      | nil =>
        cases hfind : acc.find? node with
        | none => simp [collapseNode, hfind] at h
        | some f =>
          simp only [collapseNode, hfind] at h
          obtain ⟨rfl, rfl⟩ := Prod.mk.inj (Except.ok.inj h)
          exact .leaf hfind
      | cons first rest =>
        obtain ⟨b, hiff, heq⟩ := collapseNode_inside ns (fun f hf => hin f (List.mem_map_of_mem hf)) acc
        rw [heq] at h
        cases hfree : acc.contains node with
        | true => simp [hfree] at h
        | false =>
          rw [hfree, if_neg Bool.false_ne_true] at h
          cases b with
          | true =>
            obtain ⟨rfl, rfl⟩ := Prod.mk.inj (Except.ok.inj h)
            exact .joined hfree (hiff.1 rfl)
          | false =>
            obtain ⟨rfl, rfl⟩ := Prod.mk.inj (Except.ok.inj h)
            exact .refused hfree fun habs => absurd (hiff.2 habs) Bool.false_ne_true
  · intro h
    cases h with
    | blockedBelow hblocked => exact collapseNode_of_blocked hblocked acc
    | leaf hfind => simp [collapseNode, hfind]
    | refused hfree hnot =>
      obtain ⟨b, hiff, heq⟩ := collapseNode_inside ns (fun f hf => hin f (List.mem_map_of_mem hf)) acc
      rw [heq, hfree, if_neg Bool.false_ne_true, if_neg fun hb => hnot (hiff.1 hb)]
    | joined hfree habs =>
      obtain ⟨b, hiff, heq⟩ := collapseNode_inside ns (fun f hf => hin f (List.mem_map_of_mem hf)) acc
      rw [heq, hfree, if_neg Bool.false_ne_true, if_pos (hiff.2 habs)]

/-! ## The recursion -/

/-- Sorting by insertion gives path order as well, and can be evaluated by proof. -/
def AncestryGraph.sorted (paths : List Path) : List Path := paths.insertionSort fun a b => a.le b = true

theorem AncestryGraph.inPathOrder_eq_sorted (paths : List Path) : inPathOrder paths = sorted paths :=
  mergeSort_eq_insertionSort (fun a b c => @Path.le_trans a b c) Path.le_total paths

/-- **What becomes of a directory's tree:** the trees directly inside it first, in path order, and then the rule. In a
    linked graph all children are deeper, and none is left out. -/
def collapseTree (g : AncestryGraph) (ns : NamespaceCache) (p : Path) : Collapsing Outcome := do
  let inside := (AncestryGraph.sorted (g.childrenByAge p)).filter fun c =>
    g.contains c && decide (p.components.length < c.components.length)
  let outcomes ← inside.attach.mapM fun c => collapseTree g ns c.1
  collapseNode ns p outcomes
termination_by (g.deeper p).length
decreasing_by
  obtain ⟨hc, hlt⟩ := Bool.and_eq_true_iff.1 (List.mem_filter.1 c.2).2
  exact AncestryGraph.length_deeper_lt hc (of_decide_eq_true hlt)

theorem AncestryGraph.Linked.collapseTree_eq (hg : g.Linked) (ns : NamespaceCache) (p : Path) :
    collapseTree g ns p = (g.children p).mapM (collapseTree g ns) >>= collapseNode ns p := by
  have hall : (g.children p).filter
      (fun c => g.contains c && decide (p.components.length < c.components.length)) = g.children p := by
    refine List.filter_eq_self.2 fun c hc => ?_
    obtain ⟨hmem, hlies⟩ := hg.mem_children.1 hc
    have hlen := hlies.length_eq
    exact Bool.and_eq_true_iff.2 ⟨AncestryGraph.contains_of_mem hmem, decide_eq_true (by omega)⟩
  rw [collapseTree, ← AncestryGraph.inPathOrder_eq_sorted, ← AncestryGraph.children,
    List.mapM_subtype (g := collapseTree g ns) fun _ _ => rfl, List.unattach_attach, hall]

/-! ## Locality -/

/-- **Two accumulators agree in a region:** they have the same rows there. -/
def AgreeOn (region : Path → Prop) (acc₁ acc₂ : Accumulator) : Prop := ∀ q, region q → acc₁.row? q = acc₂.row? q

namespace AgreeOn

variable {region : Path → Prop}

theorem refl (acc : Accumulator) : AgreeOn region acc acc := fun _ _ => rfl

theorem symm (h : AgreeOn region acc₁ acc₂) : AgreeOn region acc₂ acc₁ := fun q hq => (h q hq).symm

theorem trans (h₁ : AgreeOn region acc acc₁) (h₂ : AgreeOn region acc₁ acc₂) : AgreeOn region acc acc₂ :=
  fun q hq => (h₁ q hq).trans (h₂ q hq)

theorem mono {smaller : Path → Prop} (h : AgreeOn region acc₁ acc₂) (hsub : ∀ q, smaller q → region q) :
    AgreeOn smaller acc₁ acc₂ := fun q hq => h q (hsub q hq)

theorem find? (h : AgreeOn region acc₁ acc₂) (hq : region q) : acc₁.find? q = acc₂.find? q := by
  rw [PathMap.find?_eq_map_row?, PathMap.find?_eq_map_row?, h q hq]

theorem contains (h : AgreeOn region acc₁ acc₂) (hq : region q) : acc₁.contains q = acc₂.contains q := by
  rw [PathMap.contains, PathMap.contains, h.find? hq]

end AgreeOn

/-- **A change is local to a region:** it changes nothing outside, and what it does is the same for accumulators that
    agree in the region. All accumulators hold their folders at the folders' own paths. -/
structure Local (region : Path → Prop) (post : α → Prop) (x : Collapsing α) : Prop where
  keeps : ∀ {acc a acc'}, acc.KeyedByPath → x acc = .ok (a, acc') →
    acc'.KeyedByPath ∧ post a ∧ AgreeOn (fun q => ¬ region q) acc acc'
  congr : ∀ {acc₁ acc₂ a acc₁'}, acc₁.KeyedByPath → acc₂.KeyedByPath → AgreeOn region acc₁ acc₂ →
    x acc₁ = .ok (a, acc₁') → ∃ acc₂', x acc₂ = .ok (a, acc₂') ∧ AgreeOn region acc₁' acc₂'

theorem Collapsing.bind_eq_ok_iff {x : Collapsing α} {f : α → Collapsing β} {b : β} :
    (x >>= f) acc = .ok (b, acc') ↔ ∃ a acc₁, x acc = .ok (a, acc₁) ∧ f a acc₁ = .ok (b, acc') := by
  show (x acc >>= fun r => f r.1 r.2) = _ ↔ _
  cases x acc with
  | error e =>
    constructor
    · intro h
      exact absurd h nofun
    · rintro ⟨_, _, h, -⟩
      exact absurd h nofun
  | ok r =>
    constructor
    · intro h
      exact ⟨r.1, r.2, rfl, h⟩
    · rintro ⟨a, acc₁, hr, h⟩
      obtain rfl := Except.ok.inj hr
      exact h

namespace Local

variable {region : Path → Prop} {post : α → Prop} {x : Collapsing α}

theorem pure {a : α} (h : post a) : Local region post (pure a : Collapsing α) where
  keeps hkeyed heq := by
    obtain ⟨rfl, rfl⟩ := Prod.mk.inj (Except.ok.inj heq)
    exact ⟨hkeyed, h, .refl _⟩
  congr _ _ hagree heq := by
    obtain ⟨rfl, rfl⟩ := Prod.mk.inj (Except.ok.inj heq)
    exact ⟨_, rfl, hagree⟩

/-- One local change after the other. -/
theorem bind {post' : β → Prop} {f : α → Collapsing β} (hx : Local region post x)
    (hf : ∀ a, post a → Local region post' (f a)) : Local region post' (x >>= f) where
  keeps hkeyed heq := by
    obtain ⟨a, acc₁, hxa, hfa⟩ := Collapsing.bind_eq_ok_iff.1 heq
    obtain ⟨hkeyed₁, hpost, hframe₁⟩ := hx.keeps hkeyed hxa
    obtain ⟨hkeyed₂, hpost', hframe₂⟩ := (hf a hpost).keeps hkeyed₁ hfa
    exact ⟨hkeyed₂, hpost', hframe₁.trans hframe₂⟩
  congr hkeyed₁ hkeyed₂ hagree heq := by
    obtain ⟨a, mid₁, hxa, hfa⟩ := Collapsing.bind_eq_ok_iff.1 heq
    obtain ⟨hkeyedMid₁, hpost, -⟩ := hx.keeps hkeyed₁ hxa
    obtain ⟨mid₂, hxa₂, hagreeMid⟩ := hx.congr hkeyed₁ hkeyed₂ hagree hxa
    obtain ⟨hkeyedMid₂, -, -⟩ := hx.keeps hkeyed₂ hxa₂
    obtain ⟨acc₂', hfa₂, hagree'⟩ := (hf a hpost).congr hkeyedMid₁ hkeyedMid₂ hagreeMid hfa
    exact ⟨acc₂', Collapsing.bind_eq_ok_iff.2 ⟨a, mid₂, hxa₂, hfa₂⟩, hagree'⟩

/-- A change that is local to a region is local to a larger one. -/
theorem mono {larger : Path → Prop} (hx : Local region post x) (hsub : ∀ q, region q → larger q) :
    Local larger post x where
  keeps hkeyed heq := by
    obtain ⟨hkeyed', hpost, hframe⟩ := hx.keeps hkeyed heq
    exact ⟨hkeyed', hpost, hframe.mono fun q hq hr => hq (hsub q hr)⟩
  congr hkeyed₁ hkeyed₂ hagree heq := by
    obtain ⟨acc₂', heq₂, hagree'⟩ := hx.congr hkeyed₁ hkeyed₂ (hagree.mono hsub) heq
    refine ⟨acc₂', heq₂, fun q hq => ?_⟩
    by_cases hr : region q
    · exact hagree' q hr
    · -- outside the smaller region neither of the two has changed
      have h₁ := (hx.keeps hkeyed₁ heq).2.2 q hr
      have h₂ := (hx.keeps hkeyed₂ heq₂).2.2 q hr
      rw [← h₁, ← h₂, hagree q hq]

end Local

/-- What became of a directory is a folder at its place, or nothing. -/
def Outcome.At (p : Path) (o : Outcome) : Prop := ∀ f, o = .merged f → (f.path == p) = true

theorem row?_replace {absorbed : List Folder} {merged : Folder} (hfree : acc.contains merged.path = false) :
    (acc.replace absorbed merged).row? q =
      if q == merged.path then some (merged.path, merged)
      else if absorbed.any (fun f => q == f.path) then none else acc.row? q := by
  have hnone : acc.row? merged.path = none := by
    cases hrow : acc.row? merged.path with
    | none => rfl
    | some e => simp [PathMap.contains, PathMap.find?_eq_map_row?, hrow] at hfree
  rw [Accumulator.replace, PathMap.insert, PathMap.row?_upsert, PathMap.row?_foldl_erase Folder.path,
    PathMap.row?_foldl_erase Folder.path, hnone, ite_self]
  rfl

theorem keyedByPath_iff : acc.KeyedByPath ↔ ∀ q e, acc.row? q = some e → (e.1 == e.2.path) = true := by
  constructor
  · intro h q e he
    exact h e (PathMap.row?_eq_some_iff.1 he).1
  · intro h e he
    exact h e.1 e (PathMap.row?_eq_some_iff.2 ⟨he, BEq.rfl⟩)

theorem Accumulator.KeyedByPath.path_of_find? (h : acc.KeyedByPath) (hf : acc.find? q = some f) :
    (f.path == q) = true := by
  obtain ⟨k, hmem, hk⟩ := PathMap.find?_eq_some_iff.1 hf
  exact BEq.trans (BEq.symm (h _ hmem)) hk

/-- A folder that takes the place of others is held at its own path. -/
theorem Accumulator.KeyedByPath.replace {absorbed : List Folder} {merged : Folder} (h : acc.KeyedByPath)
    (hfree : acc.contains merged.path = false) : (acc.replace absorbed merged).KeyedByPath := by
  rw [keyedByPath_iff] at h ⊢
  intro q e he
  rw [row?_replace hfree] at he
  split at he
  · obtain rfl := Option.some.inj he
    exact BEq.rfl
  · split at he
    · exact absurd he nofun
    · exact h q e he

/-- **The rule is local** to the directory's tree. -/
theorem local_collapseNode (hin : ∀ f, .merged f ∈ outcomes → f.path.LiesIn node) :
    Local node.Covers (Outcome.At node) (collapseNode ns node outcomes) where
  keeps hkeyed heq := by
    cases (collapseNode_eq_ok_iff hin).1 heq with
    | blockedBelow => exact ⟨hkeyed, nofun, .refl _⟩
    | leaf hfind =>
      refine ⟨hkeyed, fun f hf => ?_, .refl _⟩
      obtain rfl := Outcome.merged.inj hf
      exact hkeyed.path_of_find? hfind
    | refused => exact ⟨hkeyed, nofun, .refl _⟩
    | joined hfree =>
      refine ⟨hkeyed.replace hfree, fun f hf => ?_, fun q hq => ?_⟩
      · obtain rfl := Outcome.merged.inj hf
        exact BEq.rfl
      · rw [row?_replace hfree, Folder.path_joined, if_neg fun he => hq (.of_beq (BEq.symm he)), if_neg]
        intro hany
        obtain ⟨f, hf, hqf⟩ := List.any_eq_true.1 hany
        exact hq ((hin f (List.mem_map_of_mem hf)).covers.trans (.of_beq (BEq.symm hqf)))
  congr {acc₁ acc₂ o acc₁'} hkeyed₁ hkeyed₂ hagree heq := by
    have hself : node.Covers node := .refl node
    cases (collapseNode_eq_ok_iff hin).1 heq with
    | blockedBelow hblocked => exact ⟨acc₂, (collapseNode_eq_ok_iff hin).2 (.blockedBelow hblocked), hagree⟩
    | leaf hfind =>
      rw [hagree.find? hself] at hfind
      exact ⟨acc₂, (collapseNode_eq_ok_iff hin).2 (.leaf hfind), hagree⟩
    | refused hfree hnot =>
      rw [hagree.contains hself] at hfree
      exact ⟨acc₂, (collapseNode_eq_ok_iff hin).2 (.refused hfree hnot), hagree⟩
    | joined hfree habs =>
      have hfree₂ := hfree
      rw [hagree.contains hself] at hfree₂
      refine ⟨_, (collapseNode_eq_ok_iff hin).2 (.joined hfree₂ habs), fun q hq => ?_⟩
      rw [row?_replace hfree, row?_replace hfree₂, hagree q hq]

/-- **Trees are local,** one after the other, to the trees together. -/
theorem local_mapM {X : Path → Collapsing Outcome} (hX : ∀ c ∈ cs, Local c.Covers (Outcome.At c) (X c)) :
    Local (fun q => ∃ c ∈ cs, c.Covers q) (fun outcomes => ∀ f, .merged f ∈ outcomes → ∃ c ∈ cs, (f.path == c) = true)
      (cs.mapM X) := by
  induction cs with
  | nil => exact .pure nofun
  | cons c rest ih =>
    rw [List.mapM_cons]
    refine ((hX c (by simp)).mono fun q hq => ⟨c, by simp, hq⟩).bind fun o ho => ?_
    have hsub : ∀ q, (∃ d ∈ rest, d.Covers q) → ∃ d ∈ c :: rest, d.Covers q := by
      rintro q ⟨d, hd, hdq⟩
      exact ⟨d, List.mem_cons_of_mem c hd, hdq⟩
    refine ((ih fun d hd => hX d (by simp [hd])).mono hsub).bind fun outcomes houtcomes => .pure fun f hf => ?_
    rcases List.mem_cons.1 hf with hf | hf
    · exact ⟨c, by simp, ho f hf.symm⟩
    · exact (houtcomes f hf).imp fun d hd => ⟨List.mem_cons_of_mem c hd.1, hd.2⟩

/-- **A tree is local.** -/
theorem local_collapseTree (hg : g.Linked) (ns : NamespaceCache) :
    ∀ p ∈ g.nodes, Local p.Covers (Outcome.At p) (collapseTree g ns p) := by
  refine hg.inside_induction fun p _ ih => ?_
  have hlies : ∀ c ∈ g.children p, c.LiesIn p := fun c hc => (hg.mem_children.1 hc).2
  have hinside : ∀ c ∈ g.children p, Local c.Covers (Outcome.At c) (collapseTree g ns c) := fun c hc =>
    ih c (hg.mem_childrenByAge.2 (hg.mem_children.1 hc))
  rw [hg.collapseTree_eq]
  refine ((local_mapM hinside).mono fun q hq => ?_).bind fun outcomes houtcomes => local_collapseNode fun f hf => ?_
  · obtain ⟨c, hc, hcq⟩ := hq
    exact (hlies c hc).covers.trans hcq
  · obtain ⟨c, hc, hfc⟩ := houtcomes f hf
    exact (Path.LiesIn.congr hfc BEq.rfl).2 (hlies c hc)

/-- The folders inside a directory lie in it, once the trees there were taken. -/
theorem liesIn_of_mapM_children (hg : g.Linked) (hkeyed : acc.KeyedByPath)
    (h : (g.children p).mapM (collapseTree g ns) acc = .ok (outcomes, acc')) :
    ∀ f, .merged f ∈ outcomes → f.path.LiesIn p := by
  intro f hf
  have hlocal : ∀ c ∈ g.children p, Local c.Covers (Outcome.At c) (collapseTree g ns c) := fun c hc =>
    local_collapseTree hg ns c (hg.mem_children.1 hc).1
  obtain ⟨c, hc, hfc⟩ := ((local_mapM hlocal).keeps hkeyed h).2.1 f hf
  exact (Path.LiesIn.congr hfc BEq.rfl).2 (hg.mem_children.1 hc).2

/-! ## Order -/

/-- The outcome of a change, if it succeeds. -/
def outcome? (result : Except Error (α × Accumulator)) : Option α := result.toOption.map (·.1)

/-- **What trees do to the same folders,** each by itself: the result has what each tree leaves in its place, and
    nothing else has changed. -/
structure Together (X : Path → Collapsing Outcome) (acc : Accumulator) (cs : List Path) (outcomes : List Outcome)
    (acc' : Accumulator) : Prop where
  each : ∀ c ∈ cs, ∃ o left, X c acc = .ok (o, left) ∧ AgreeOn c.Covers left acc'
  outcomes : outcomes.map some = cs.map fun c => outcome? (X c acc)
  frame : AgreeOn (fun q => ∀ c ∈ cs, ¬ c.Covers q) acc acc'

variable {X : Path → Collapsing Outcome}

/-- **A tree that was taken** leaves trees apart from it as they were. -/
theorem Local.agreeOn_of_apart {post : Outcome → Prop} {d : Path} {left : Accumulator}
    (hc : Local c.Covers post (X c)) (hap : Apart c d) (hkeyed : acc.KeyedByPath) (hX : X c acc = .ok (o, left)) :
    AgreeOn d.Covers acc left :=
  (hc.keeps hkeyed hX).2.2.mono fun q hdq hcq => hap q hcq hdq

/-- Trees do the same to accumulators that agree on them. -/
theorem each_of_agreeOn {left : Accumulator} (hX : ∀ c ∈ cs, Local c.Covers (Outcome.At c) (X c))
    (hkeyed : acc.KeyedByPath) (hkeyed' : left.KeyedByPath) (hagree : ∀ c ∈ cs, AgreeOn c.Covers acc left)
    (h : ∀ c ∈ cs, ∃ o left, X c acc = .ok (o, left) ∧ AgreeOn c.Covers left acc') :
    (∀ c ∈ cs, ∃ o left', X c left = .ok (o, left') ∧ AgreeOn c.Covers left' acc') ∧
      (cs.map fun c => outcome? (X c left)) = cs.map fun c => outcome? (X c acc) := by
  have hsame : ∀ c ∈ cs, ∃ o left₁ left₂, X c acc = .ok (o, left₁) ∧ X c left = .ok (o, left₂) ∧
      AgreeOn c.Covers left₂ acc' := by
    intro c hc
    obtain ⟨o, left₁, hXc, hend⟩ := h c hc
    obtain ⟨left₂, hXc', hagree'⟩ := (hX c hc).congr hkeyed hkeyed' (hagree c hc) hXc
    exact ⟨o, left₁, left₂, hXc, hXc', hagree'.symm.trans hend⟩
  refine ⟨fun c hc => ?_, List.map_congr_left fun c hc => ?_⟩
  · obtain ⟨o, -, left₂, -, hXc', hend⟩ := hsame c hc
    exact ⟨o, left₂, hXc', hend⟩
  · obtain ⟨o, left₁, left₂, hXc, hXc', -⟩ := hsame c hc
    rw [hXc, hXc']
    rfl

/-- The first of several trees that are apart can be taken before the others. -/
theorem together_cons_iff {left : Accumulator} {others : List Outcome}
    (hX : ∀ d ∈ c :: cs, Local d.Covers (Outcome.At d) (X d)) (hap : ∀ d ∈ cs, Apart c d) (hkeyed : acc.KeyedByPath)
    (hc : X c acc = .ok (o, left)) : Together X acc (c :: cs) (o :: others) acc' ↔ Together X left cs others acc' := by
  obtain ⟨hXc, hXcs⟩ := List.forall_mem_cons.1 hX
  obtain ⟨hkeyed', -, hframe⟩ := hXc.keeps hkeyed hc
  have hagree : ∀ d ∈ cs, AgreeOn d.Covers acc left := fun d hd => hXc.agreeOn_of_apart (hap d hd) hkeyed hc
  constructor
  · intro h
    obtain ⟨⟨o', left', hc', hend⟩, heach⟩ := List.forall_mem_cons.1 h.each
    obtain ⟨rfl, rfl⟩ := Prod.mk.inj (Except.ok.inj (hc.symm.trans hc'))
    obtain ⟨heach', houtcomes⟩ := each_of_agreeOn hXcs hkeyed hkeyed' hagree heach
    refine ⟨heach', houtcomes.symm ▸ (List.cons.inj h.outcomes).2, fun q hq => ?_⟩
    by_cases hcq : c.Covers q
    · exact hend q hcq
    · rw [← hframe q hcq]
      exact h.frame q (List.forall_mem_cons.2 ⟨hcq, hq⟩)
  · intro h
    obtain ⟨heach, houtcomes⟩ :=
      each_of_agreeOn hXcs hkeyed' hkeyed (fun d hd => (hagree d hd).symm) h.each
    refine ⟨List.forall_mem_cons.2 ⟨⟨o, left, hc, fun q hq => ?_⟩, heach⟩, ?_, fun q hq => ?_⟩
    · exact h.frame q fun d hd => hap d hd q hq
    · rw [List.map_cons, List.map_cons, hc, houtcomes, h.outcomes]
      rfl
    · obtain ⟨hcq, hq'⟩ := List.forall_mem_cons.1 hq
      rw [hframe q hcq, h.frame q hq']

/-- **Trees that are apart,** taken one after the other, do what each does by itself. -/
theorem mapM_eq_ok_iff (hX : ∀ c ∈ cs, Local c.Covers (Outcome.At c) (X c)) (hap : cs.Pairwise Apart)
    (hkeyed : acc.KeyedByPath) : cs.mapM X acc = .ok (outcomes, acc') ↔ Together X acc cs outcomes acc' := by
  induction cs generalizing acc outcomes with
  | nil =>
    constructor
    · intro h
      obtain ⟨rfl, rfl⟩ := Prod.mk.inj (Except.ok.inj h)
      exact ⟨nofun, rfl, .refl _⟩
    · intro h
      obtain rfl : outcomes = [] := List.map_eq_nil_iff.1 h.outcomes
      obtain rfl : acc = acc' := PathMap.ext_row fun q => h.frame q nofun
      rfl
  | cons c rest ih =>
    obtain ⟨hfirst, hrest⟩ := List.pairwise_cons.1 hap
    obtain ⟨hXc, hXrest⟩ := List.forall_mem_cons.1 hX
    rw [List.mapM_cons, Collapsing.bind_eq_ok_iff]
    simp only [Collapsing.bind_eq_ok_iff]
    constructor
    · rintro ⟨o, left, hc, others, acc₂, hothers, hpure⟩
      obtain ⟨rfl, rfl⟩ := Prod.mk.inj (Except.ok.inj hpure)
      exact (together_cons_iff hX hfirst hkeyed hc).2 ((ih hXrest hrest (hXc.keeps hkeyed hc).1).1 hothers)
    · intro h
      obtain ⟨o, left, hc, -⟩ := h.each c (by simp)
      have houtcomes := h.outcomes
      rw [List.map_cons, hc] at houtcomes
      obtain ⟨o', others, rfl, ho, -⟩ := List.map_eq_cons_iff.1 houtcomes
      obtain rfl : o' = o := Option.some.inj ho
      have hothers := (together_cons_iff hX hfirst hkeyed hc).1 h
      exact ⟨o', left, hc, others, acc', (ih hXrest hrest (hXc.keeps hkeyed hc).1).2 hothers, rfl⟩

/-- Values that exist for all elements of a list can be listed. -/
theorem exists_map_some {γ : Type} {l : List α} {value? : α → Option γ} (h : ∀ a ∈ l, ∃ c, value? a = some c) :
    ∃ values : List γ, values.map some = l.map value? := by
  induction l with
  | nil => exact ⟨[], rfl⟩
  | cons a rest ih =>
    obtain ⟨hfirst, hrest⟩ := List.forall_mem_cons.1 h
    obtain ⟨v, hv⟩ := hfirst
    obtain ⟨values, hvalues⟩ := ih hrest
    exact ⟨v :: values, by rw [List.map_cons, List.map_cons, hv, hvalues]⟩

/-- **Trees that are apart can be taken in any order.** -/
theorem exists_mapM_perm {cs' : List Path} (hX : ∀ c ∈ cs, Local c.Covers (Outcome.At c) (X c))
    (hap : cs.Pairwise Apart) (hperm : cs.Perm cs') (hkeyed : acc.KeyedByPath)
    (h : cs.mapM X acc = .ok (outcomes, acc')) :
    ∃ outcomes', cs'.mapM X acc = .ok (outcomes', acc') ∧
      outcomes.map some = cs.map (fun c => outcome? (X c acc)) ∧
      outcomes'.map some = cs'.map fun c => outcome? (X c acc) := by
  have htogether := (mapM_eq_ok_iff hX hap hkeyed).1 h
  have hX' : ∀ c ∈ cs', Local c.Covers (Outcome.At c) (X c) := fun c hc => hX c (hperm.mem_iff.2 hc)
  have hap' : cs'.Pairwise Apart := hperm.pairwise hap fun hab q hbq haq => hab q haq hbq
  have hsome : ∀ c ∈ cs', ∃ o, outcome? (X c acc) = some o := by
    intro c hc
    obtain ⟨o, left, hXc, -⟩ := htogether.each c (hperm.mem_iff.2 hc)
    rw [hXc]
    exact ⟨o, rfl⟩
  obtain ⟨outcomes', houtcomes'⟩ := exists_map_some hsome
  refine ⟨outcomes', (mapM_eq_ok_iff hX' hap' hkeyed).2 ⟨fun c hc => ?_, houtcomes', fun q hq => ?_⟩,
    htogether.outcomes, houtcomes'⟩
  · exact htogether.each c (hperm.mem_iff.2 hc)
  · exact htogether.frame q fun c hc => hq c (hperm.mem_iff.1 hc)

end RootFold
