import RootFold.Proofs.Path.Covering
import RootFold.Proofs.Path.Map

/-!
# `RootFold.Proofs.Path.Grove` — sets of whole trees

Every climb ends at a top, and two paths are in one tree when their climbs end at the same place. A grove is a set of
whole trees: with a directory it has everything above it and everything below. What is done along the climb from a path
therefore stays in the path's grove, and a list or a map that is made in this way for all paths can be cut down to a
grove before or after it is made.

## Contents
- **Tops.** `Path.topmost`, the same for a directory and for all below it.
- **Groves.** `Grove` with `Grove.holds_of_covers`; the trees of some paths `Grove.treesOf`, all others `Grove.compl`.
- **Cutting down.** `Grove.find?_flatMap_filter` for lists; `PathMap.within` with `row?_within`, `within_insert`.
-/

namespace RootFold

variable {α β : Type} {p q m : Path} {grove : Grove}

/-! ## Tops -/

/-- **The top of a path's tree:** the last directory of its climb, or the path itself if none is above it. -/
def Path.topmost (p : Path) : Path := p.ancestors.getLast?.getD p

theorem Path.topmost_of_parentDir?_eq_none (h : p.parentDir? = none) : p.topmost = p := by
  rw [topmost, ancestors_of_parentDir?_eq_none h]
  rfl

theorem Path.topmost_of_parentDir?_eq_some (h : p.parentDir? = some m) : p.topmost = m.topmost := by
  rw [topmost, topmost, ancestors_of_parentDir?_eq_some h, List.getLast?_cons, Option.getD_some]

/-- Two spellings of a path are in one tree. -/
theorem Path.topmost_beq {p q : Path} (h : (p == q) = true) : (p.topmost == q.topmost) = true := by
  cases hp : p.parentDir? with
  | none =>
    have hq : q.parentDir? = none := by
      rwa [parentDir?_eq_none_iff, ← beq_iff.1 h, ← parentDir?_eq_none_iff]
    rwa [topmost_of_parentDir?_eq_none hp, topmost_of_parentDir?_eq_none hq]
  | some m =>
    obtain ⟨m', hm', hmm⟩ := (LiesIn.congr h BEq.rfl).1 (.of_parentDir? hp)
    rw [topmost_of_parentDir?_eq_some hp, topmost_of_parentDir?_eq_some hm']
    exact topmost_beq (BEq.symm hmm)
termination_by p.components.length
decreasing_by exact length_components_of_parentDir? hp

/-! ## Groves -/

/-- **A set of whole trees.** It has both of two spellings of a path or none, and a directory whenever it has one
    directly inside. -/
structure Grove where
  holds : Path → Bool
  congr : ∀ {p q : Path}, (p == q) = true → holds p = holds q
  above : ∀ {p m : Path}, p.parentDir? = some m → holds m = holds p

namespace Grove

/-- **A directory and all below it** are in the same groves. -/
theorem holds_of_covers (grove : Grove) {p : Path} (h : q.Covers p) : grove.holds q = grove.holds p := by
  rcases Path.covers_iff_parentDir?.1 h with he | ⟨m, hm, hqm⟩
  · exact grove.congr he
  · exact (grove.holds_of_covers hqm).trans (grove.above hm)
termination_by p.components.length
decreasing_by exact Path.length_components_of_parentDir? hm

/-- **The trees of some paths.** -/
def treesOf (paths : List Path) : Grove where
  holds p := paths.any fun a => a.topmost == p.topmost
  congr {p q} h := by
    congr 1
    funext a
    exact BEq.congr_right (Path.topmost_beq h)
  above h := by rw [Path.topmost_of_parentDir?_eq_some h]

theorem holds_treesOf_iff {paths : List Path} :
    (treesOf paths).holds p = true ↔ ∃ a ∈ paths, (a.topmost == p.topmost) = true := List.any_eq_true

/-- **All other trees.** -/
def compl (grove : Grove) : Grove where
  holds p := !grove.holds p
  congr h := congrArg (!·) (grove.congr h)
  above h := congrArg (!·) (grove.above h)

@[simp] theorem holds_compl : grove.compl.holds p = !grove.holds p := rfl

/-! ## Cutting down -/

/-- **To look for a path of a grove** in rows that stay in the trees of the places that they are made for, the places in
    the grove will do. -/
theorem find?_flatMap_filter (grove : Grove) {place : β → Path} {rows : β → List α} {key : α → Path} {l : List β}
    (hrows : ∀ b ∈ l, ∀ a ∈ rows b, grove.holds (key a) = grove.holds (place b)) (hq : grove.holds q = true) :
    ((l.filter fun b => grove.holds (place b)).flatMap rows).find? (key · == q) =
      (l.flatMap rows).find? (key · == q) := by
  induction l with
  | nil => rfl
  | cons b rest ih =>
    obtain ⟨hb, hrest⟩ := List.forall_mem_cons.1 hrows
    rw [List.flatMap_cons, List.find?_append]
    cases hplace : grove.holds (place b) with
    | true =>
      rw [List.filter_cons_of_pos (p := fun b => grove.holds (place b)) hplace, List.flatMap_cons, List.find?_append,
        ih hrest]
    | false =>
      have hnone : (rows b).find? (key · == q) = none := by
        rw [List.find?_eq_none]
        intro a ha he
        have hheld := hb a ha
        rw [grove.congr he, hq, hplace] at hheld
        exact absurd hheld (by simp)
      rw [List.filter_cons_of_neg (by simp [hplace]), ih hrest, hnone, Option.none_or]

end Grove

namespace PathMap

variable {m : PathMap α} {v : α}

/-- **The part of a map that is in a grove.** -/
def within (m : PathMap α) (grove : Grove) : PathMap α :=
  ⟨m.entries.filter fun e => grove.holds e.1, m.sorted.filter _⟩

theorem row?_within : (m.within grove).row? q = if grove.holds q then m.row? q else none := by
  rw [row?, within, List.find?_filter, row?]
  cases hq : grove.holds q with
  | true =>
    rw [if_pos rfl]
    congr 1
    funext e
    cases he : e.1 == q with
    | true => simp [grove.congr he, hq]
    | false => simp
  | false =>
    rw [if_neg Bool.false_ne_true, List.find?_eq_none]
    intro e _ he
    obtain ⟨hheld, hsame⟩ := of_decide_eq_true he
    rw [grove.congr hsame, hq] at hheld
    exact Bool.false_ne_true hheld

theorem keys_within : (m.within grove).keys = m.keys.filter grove.holds := List.filter_map.symm

/-- A value that is put in reaches the part of its grove only. -/
theorem within_insert :
    (m.insert p v).within grove = if grove.holds p then (m.within grove).insert p v else m.within grove := by
  refine ext_row fun q => ?_
  cases hp : grove.holds p with
  | true =>
    rw [row?_within, if_pos rfl, insert, insert, row?_upsert, row?_upsert, row?_within, row?_within, hp]
    cases hqp : q == p with
    | true => rw [grove.congr hqp, hp]; rfl
    | false => rfl
  | false =>
    rw [row?_within, if_neg Bool.false_ne_true, row?_within, insert, row?_upsert]
    cases hqp : q == p with
    | true => rw [grove.congr hqp, hp]; rfl
    | false => rfl

end PathMap

end RootFold
