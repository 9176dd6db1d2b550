import RootFold.Proofs.Ancestry.Closure

/-!
# `RootFold.Proofs.Ancestry.Levels` — a graph below a directory, level by level

How far one directory lies below another is counted in climbs, and that is the difference of their steps. The tree below
a directory is said from the top down: at each level the children in path order, until no level is left. Every directory
of the graph that lies so many levels below is in it once, whatever the graph.

## Contents
- **Levels.** `Path.LiesBelow`, read off the steps by `liesBelow_iff`; `LiesBelow.nestingDepth?`.
- **Trees of directories.** `DirectoryTree` with its `parts`, and `AncestryGraph.treeBelow`.
- **What is in a tree.** `Linked.mem_parts_treeBelow`, `Linked.parts_treeBelow_distinct`.
-/

namespace RootFold

variable {g : AncestryGraph} {root p q c : Path} {d k n : Nat}

/-! ## Levels -/

namespace Path

/-- **How many levels one path lies below another:** so many climbs lead from it to the other. -/
def LiesBelow (p : Path) (d : Nat) (root : Path) : Prop := ∃ m, (p :: p.ancestors)[d]? = some m ∧ (m == root) = true

theorem liesBelow_zero : p.LiesBelow 0 root ↔ (p == root) = true := by simp [LiesBelow]

theorem liesBelow_succ : p.LiesBelow (d + 1) root ↔ ∃ m, p.parentDir? = some m ∧ m.LiesBelow d root := by
  cases hpar : p.parentDir? with
  | none => simp [LiesBelow, ancestors_of_parentDir?_eq_none hpar]
  | some m => simp [LiesBelow, ancestors_of_parentDir?_eq_some hpar]

/-- **Levels are steps** below what covers a path. -/
theorem liesBelow_iff : p.LiesBelow d root ↔ root.Covers p ∧ p.components.length = root.components.length + d := by
  induction d generalizing p with
  | zero =>
    rw [liesBelow_zero]
    constructor
    · intro h
      exact ⟨.of_beq (BEq.symm h), congrArg List.length (beq_iff.1 h)⟩
    · rintro ⟨hcov, hlen⟩
      exact beq_iff.2 ((covers_iff.1 hcov).1.eq_of_length hlen.symm).symm
  | succ d ih =>
    rw [liesBelow_succ]
    constructor
    · rintro ⟨m, hm, hbelow⟩
      obtain ⟨hcov, hlen⟩ := ih.1 hbelow
      have hlies : p.LiesIn m := .of_parentDir? hm
      exact ⟨hcov.trans hlies.covers, by rw [hlies.length_eq, hlen, Nat.add_assoc]⟩
    · rintro ⟨hcov, hlen⟩
      rcases covers_iff_parentDir?.1 hcov with he | ⟨m, hm, hrootm⟩
      · rw [beq_iff.1 he] at hlen
        omega
      · have hstep := LiesIn.length_eq (.of_parentDir? hm)
        exact ⟨m, hm, ih.2 ⟨hrootm, by omega⟩⟩

/-- Every directory that is covered lies some levels below. -/
theorem Covers.exists_liesBelow (h : root.Covers p) : ∃ d, p.LiesBelow d root := by
  obtain ⟨d, hd⟩ := Nat.exists_eq_add_of_le h.length_le
  exact ⟨d, liesBelow_iff.2 ⟨h, hd⟩⟩

theorem LiesBelow.inside (h : p.LiesBelow d root) (hc : c.LiesIn p) : c.LiesBelow (d + 1) root := by
  obtain ⟨m, hm, hmp⟩ := hc
  obtain ⟨hcov, hlen⟩ := liesBelow_iff.1 h
  refine liesBelow_succ.2 ⟨m, hm, liesBelow_iff.2 ⟨hcov.trans (.of_beq (BEq.symm hmp)), ?_⟩⟩
  rw [beq_iff.1 hmp, hlen]

/-- **Levels are counted** by nesting, which has no answer for a path below itself. -/
theorem LiesBelow.nestingDepth? (h : p.LiesBelow d root) : (root.nestingDepth? p).getD 0 = d := by
  obtain ⟨hcov, hlen⟩ := liesBelow_iff.1 h
  cases hnest : root.nestingDepth? p with
  | some m =>
    have := (nestingDepth?_eq_some_iff.1 hnest).2.1
    simp only [Option.getD_some]
    omega
  | none =>
    rcases Nat.eq_zero_or_pos d with hd | hd
    · exact hd.symm
    · have hsome := nestingDepth?_eq_some_iff.2 ⟨(covers_iff.1 hcov).1, hlen, hd⟩
      rw [hnest] at hsome
      exact absurd hsome nofun

end Path

/-! ## Trees of directories -/

/-- **A tree of directories.** -/
inductive DirectoryTree where
  | node (place : Path) (inside : List DirectoryTree)

namespace DirectoryTree

/-- The directory at the top. -/
def place : DirectoryTree → Path
  | node place _ => place

/-- The trees directly below the top. -/
def inside : DirectoryTree → List DirectoryTree
  | node _ inside => inside

mutual

/-- **The trees inside a tree,** itself among them, each with its level, from the top down. -/
def parts (level : Nat) : DirectoryTree → List (Nat × DirectoryTree)
  | node place inside => (level, node place inside) :: partsOfEach (level + 1) inside

/-- The trees inside each of some trees. -/
def partsOfEach (level : Nat) : List DirectoryTree → List (Nat × DirectoryTree)
  | [] => []
  | t :: rest => parts level t ++ partsOfEach level rest

end

theorem partsOfEach_eq (level : Nat) (ts : List DirectoryTree) : partsOfEach level ts = ts.flatMap (parts level) := by
  induction ts with
  | nil => rfl
  | cons t rest ih => rw [partsOfEach, ih, List.flatMap_cons]

end DirectoryTree

namespace AncestryGraph

/-- **The tree below a directory,** so many levels of it: at each the children in path order. -/
def treeBelow (g : AncestryGraph) : (levels : Nat) → Path → DirectoryTree
  | 0, p => .node p []
  | n + 1, p => .node p ((g.children p).map (treeBelow g n))

@[simp] theorem place_treeBelow : (g.treeBelow n p).place = p := by
  cases n <;> rfl

theorem inside_treeBelow : (g.treeBelow n p).inside.map (·.place) = if n = 0 then [] else g.children p := by
  cases n with
  | zero => rfl
  | succ n => simp [treeBelow, DirectoryTree.inside, Function.comp_def]

theorem parts_treeBelow_zero : (g.treeBelow 0 p).parts d = [(d, g.treeBelow 0 p)] := rfl

theorem parts_treeBelow_succ : (g.treeBelow (n + 1) p).parts d =
    (d, g.treeBelow (n + 1) p) :: (g.children p).flatMap fun c => (g.treeBelow n c).parts (d + 1) := by
  rw [treeBelow, DirectoryTree.parts, DirectoryTree.partsOfEach_eq, List.flatMap_map]

/-- **What is in a tree:** the directories of the graph at each level that it has, with what is left of the levels
    below each. -/
theorem Linked.mem_parts_treeBelow (hg : g.Linked) {t : DirectoryTree} (hp : p ∈ g.nodes) :
    (k, t) ∈ (g.treeBelow n p).parts d ↔
      ∃ i ≤ n, k = d + i ∧ ∃ q ∈ g.nodes, q.LiesBelow i p ∧ t = g.treeBelow (n - i) q := by
  induction n generalizing p d with
  | zero =>
    rw [parts_treeBelow_zero, List.mem_singleton, Prod.mk.injEq]
    constructor
    · rintro ⟨rfl, rfl⟩
      exact ⟨0, Nat.le_refl _, rfl, p, hp, Path.liesBelow_zero.2 BEq.rfl, rfl⟩
    · rintro ⟨i, hi, hk, q, hq, hbelow, ht⟩
      obtain rfl := Nat.le_zero.1 hi
      obtain rfl := hg.toSound.eq_of_beq hq hp (Path.liesBelow_zero.1 hbelow)
      exact ⟨hk, ht⟩
  | succ n ih =>
    rw [parts_treeBelow_succ, List.mem_cons, List.mem_flatMap, Prod.mk.injEq]
    constructor
    · rintro (⟨rfl, rfl⟩ | ⟨c, hc, hmem⟩)
      · exact ⟨0, Nat.zero_le _, rfl, p, hp, Path.liesBelow_zero.2 BEq.rfl, rfl⟩
      · obtain ⟨hcnode, hlies⟩ := hg.mem_children.1 hc
        obtain ⟨i, hi, rfl, q, hq, hbelow, rfl⟩ := (ih hcnode).1 hmem
        obtain ⟨hcov, hlen⟩ := Path.liesBelow_iff.1 hbelow
        refine ⟨i + 1, Nat.succ_le_succ hi, by omega, q, hq, Path.liesBelow_iff.2 ⟨hlies.covers.trans hcov, ?_⟩, ?_⟩
        · rw [hlen, hlies.length_eq]
          omega
        · rw [Nat.add_sub_add_right]
    · rintro ⟨i, hi, rfl, q, hq, hbelow, rfl⟩
      obtain ⟨hcov, hlen⟩ := Path.liesBelow_iff.1 hbelow
      cases i with
      | zero =>
        obtain rfl := hg.toSound.eq_of_beq hq hp (Path.liesBelow_zero.1 hbelow)
        exact .inl ⟨rfl, rfl⟩
      | succ i =>
        rcases hg.eq_or_child_covers (contains_of_mem hq) hcov with he | ⟨c, hc, hcq⟩
        · rw [Path.beq_iff.1 he] at hlen
          omega
        · -- the child above `q` is one level nearer to it
          have hstep := hc.2.length_eq
          refine .inr ⟨c, hg.mem_children.2 hc, (ih hc.1).2 ⟨i, by omega, by omega, q, hq, ?_, ?_⟩⟩
          · exact Path.liesBelow_iff.2 ⟨hcq, by omega⟩
          · rw [Nat.add_sub_add_right]

/-- **No directory is in a tree twice.** -/
theorem Linked.parts_treeBelow_distinct (hg : g.Linked) (hp : p ∈ g.nodes) :
    ((g.treeBelow n p).parts d).Pairwise fun a b => ¬ (a.2.place == b.2.place) = true := by
  induction n generalizing p d with
  | zero => exact List.pairwise_singleton _ _
  | succ n ih =>
    have hcov : ∀ c ∈ g.children p, ∀ e ∈ (g.treeBelow n c).parts (d + 1), c.Covers e.2.place := by
      rintro c hc ⟨k, t⟩ he
      obtain ⟨i, -, -, q, -, hbelow, rfl⟩ := (hg.mem_parts_treeBelow (hg.mem_children.1 hc).1).1 he
      rw [place_treeBelow]
      exact (Path.liesBelow_iff.1 hbelow).1
    rw [parts_treeBelow_succ, List.pairwise_cons]
    constructor
    · intro e he hsame
      obtain ⟨c, hc, he⟩ := List.mem_flatMap.1 he
      rw [place_treeBelow] at hsame
      exact (hg.mem_children.1 hc).2.not_covers ((hcov c hc e he).trans (.of_beq (BEq.symm hsame)))
    · rw [List.pairwise_flatMap]
      refine ⟨fun c hc => ih (hg.mem_children.1 hc).1, (hg.children_sorted p).imp_of_mem ?_⟩
      -- what two children cover is apart
      intro c c' hc hc' hlt a ha b hb hsame
      refine Path.not_beq_of_lt hlt (Path.LiesIn.beq_of_covers (hg.mem_children.1 hc).2 (hg.mem_children.1 hc').2
        (hcov c hc a ha) ((hcov c' hc' b hb).trans (.of_beq (BEq.symm hsame))))

end AncestryGraph

end RootFold
