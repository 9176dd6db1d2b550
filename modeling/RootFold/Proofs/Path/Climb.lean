import RootFold.Folder.Basic
import RootFold.Proofs.Path.Covering

/-!
# `RootFold.Proofs.Path.Climb` — climbing, nesting and cutting follow one order of steps

There are three ways up from a path. To climb keeps what is left of the text as it was spelled, to cut spells the
steps that are left afresh, and nesting is counted on what remains of the text behind the upper path, which is read
like any other path. The three agree, for any text, since each of them does to the list of steps what it says: to
climb drops the last one, to cut keeps the first ones, and the rest behind the upper path has all the others.

## Contents
- **Climbing.** `climb?` goes up any number of times: `components_climb?`, `isSome_climb?_iff`. The directories above a
  path are those that it reaches, `getElem?_ancestors`, `length_ancestors`.
- **Cutting.** `dropTrailing?_add`; what a climb reaches is what a cut leaves, `exists_dropTrailing?_of_climb?`;
  `nestingDepth?_eq_some_iff_dropTrailing?`.
- **Placeholders.** `Folder.components_representative`, `Folder.liesIn_representative`.
- **All together.** `climb_nest_cut_agree`.
-/

namespace RootFold

namespace Path

variable {a p q : Path} {k n : Nat}

/-! ## Climbing -/

/-- **The directory some steps up,** as long as there is one above. -/
def climb? : Nat → Path → Option Path
  | 0, p => some p
  | n + 1, p => p.parentDir?.bind (climb? n)

/-- **A climb keeps the first steps.** -/
theorem components_climb? (h : p.climb? n = some q) :
    q.components = p.components.take (p.components.length - n) := by
  induction n generalizing p with
  | zero =>
    obtain rfl := Option.some.inj h
    rw [Nat.sub_zero, List.take_length]
  | succ n ih =>
    obtain ⟨m, hm, hq⟩ := Option.bind_eq_some_iff.1 h
    rw [ih hq, components_of_parentDir? hm, List.length_dropLast, List.dropLast_eq_take, List.take_take]
    congr 1
    omega

/-- **A climb ends** when one step is left; the path without steps is not left at all. -/
theorem isSome_climb?_iff : (p.climb? n).isSome ↔ n ≤ p.segmentCount - 1 := by
  unfold segmentCount
  induction n generalizing p with
  | zero => simp [climb?]
  | succ n ih =>
    unfold climb?
    cases hpar : p.parentDir? with
    | none =>
      -- at most one step is left, and without steps the subtraction stops at zero
      have hlen := parentDir?_eq_none_iff.1 hpar
      constructor
      · intro h
        exact absurd h (by simp)
      · intro h
        omega
    | some m =>
      have hlen : p.components.length = m.components.length + 1 := (LiesIn.of_parentDir? hpar).length_eq
      have hpos : 0 < m.components.length := List.length_pos_iff.2 (components_ne_nil_of_parentDir? hpar)
      rw [Option.bind_some, ih]
      omega

/-- **The directories above a path** are those that a climb comes to, in this order. -/
theorem getElem?_ancestors : p.ancestors[n]? = p.climb? (n + 1) := by
  induction n generalizing p with
  | zero =>
    unfold climb?
    cases hpar : p.parentDir? with
    | none => rw [ancestors_of_parentDir?_eq_none hpar]; rfl
    | some m => rw [ancestors_of_parentDir?_eq_some hpar]; rfl
  | succ n ih =>
    rw [climb?]
    cases hpar : p.parentDir? with
    | none => rw [ancestors_of_parentDir?_eq_none hpar]; rfl
    | some m => rw [ancestors_of_parentDir?_eq_some hpar, List.getElem?_cons_succ, ih, Option.bind_some]

/-- **There are as many directories above a path** as it has steps beyond its first. -/
theorem length_ancestors (p : Path) : p.ancestors.length = p.segmentCount - 1 := by
  have hreached : ∀ n, n < p.ancestors.length ↔ n < p.segmentCount - 1 := by
    intro n
    calc n < p.ancestors.length
        ↔ (p.ancestors[n]?).isSome := by simp
      _ ↔ n + 1 ≤ p.segmentCount - 1 := by rw [getElem?_ancestors, isSome_climb?_iff]
  have hlt := hreached p.ancestors.length
  have hgt := hreached (p.segmentCount - 1)
  omega

/-! ## Cutting -/

/-- **To cut twice is to cut both numbers of steps at once,** and gives the same spelling. -/
theorem dropTrailing?_add (p : Path) (j k : Nat) :
    (p.dropTrailing? j).bind (·.dropTrailing? k) = p.dropTrailing? (j + k) := by
  by_cases hj : j ≤ p.segmentCount
  · obtain ⟨r, hr, hfront⟩ := exists_dropTrailing?_iff.2 hj
    have hcount : r.segmentCount = p.segmentCount - j := by
      rw [segmentCount, hfront, List.length_take]
      exact Nat.min_eq_left (Nat.sub_le _ _)
    rw [hr, Option.bind_some]
    by_cases hk : j + k ≤ p.segmentCount
    · -- the second cut sees the steps of the first result and not its text, and spells them as the one cut does
      rw [dropTrailing?_eq_some hk, dropTrailing?_eq_some (by omega), hcount, hfront, List.take_take, Nat.sub_sub]
      congr 3
      omega
    · rw [dropTrailing?_eq_none (p := p) (by omega), dropTrailing?_eq_none (by omega)]
  · rw [dropTrailing?_eq_none (by omega), dropTrailing?_eq_none (by omega)]
    rfl

/-- **What a climb reaches** is what a cut of as many steps leaves. -/
theorem exists_dropTrailing?_of_climb? (h : p.climb? n = some q) :
    ∃ r, p.dropTrailing? n = some r ∧ (r == q) = true := by
  have hn : n ≤ p.segmentCount - 1 := isSome_climb?_iff.1 (by rw [h]; rfl)
  obtain ⟨r, hr, hfront⟩ := exists_dropTrailing?_iff.2 (show n ≤ p.segmentCount by omega)
  refine ⟨r, hr, beq_iff.2 ?_⟩
  rw [hfront, components_climb? h]
  rfl

/-- **One path lies some steps below another** when a cut of as many steps leaves the other. -/
theorem nestingDepth?_eq_some_iff_dropTrailing? :
    a.nestingDepth? p = some k ↔ 1 ≤ k ∧ ∃ q, p.dropTrailing? k = some q ∧ (q == a) = true := by
  have hcut : (∃ q, p.dropTrailing? k = some q ∧ (q == a) = true) ↔
      ∃ tail, p.components = a.components ++ tail ∧ tail.length = k := by
    rw [← dropTrailing?_any_beq_iff, Option.any_eq_true]
  rw [hcut, nestingDepth?_eq_some_iff]
  constructor
  · rintro ⟨⟨tail, htail⟩, hlen, hpos⟩
    refine ⟨hpos, tail, htail.symm, ?_⟩
    rw [← htail, List.length_append] at hlen
    omega
  · rintro ⟨hpos, tail, htail, rfl⟩
    exact ⟨⟨tail, htail.symm⟩, by rw [htail, List.length_append], hpos⟩

end Path

/-! ## Placeholders -/

/-- The file that stands for a folder without members is one step below it. -/
theorem Folder.components_representative {f : Folder} (h : f.members.toList = []) :
    f.representative.components = f.path.components ++ [.name "notfound"] := by
  rw [representative, h]
  exact Path.components_join_name (by decide) rfl

/-- **From its placeholder one climbs back to a folder,** unless its path is empty. -/
theorem Folder.liesIn_representative {f : Folder} (h : f.members.toList = []) (hpath : f.path.isEmpty = false) :
    f.representative.LiesIn f.path := by
  refine Path.liesIn_iff.2 ⟨fun hnil => ?_, _, components_representative h⟩
  rw [Path.components_eq_nil_iff.1 hnil] at hpath
  exact absurd hpath (by simp)

/-! ## All together -/

namespace Path

/-- **Climbing, nesting and cutting follow one order of steps,** however a path is spelled. There is no directory above
    a path of at most one step; that above any other path has all its steps but the last, and the climb ends after as
    many steps as the path has beyond its first. A cut keeps the first steps and leaves what a climb of that length
    reaches. A path lies below another by the number of steps that must be cut to leave the other, and cuts add up. From
    the placeholder in a folder one climbs back to the folder. -/
theorem climb_nest_cut_agree (p : Path) :
    (p.parentDir? = none ↔ p.segmentCount ≤ 1) ∧
    (1 < p.segmentCount → ∃ q, p.parentDir? = some q ∧ q.components = p.components.dropLast) ∧
    (∀ n, (p.climb? n).isSome ↔ n ≤ p.segmentCount - 1) ∧
    p.ancestors.length = p.segmentCount - 1 ∧
    (∀ n, (∃ r, p.dropTrailing? n = some r ∧ r.components = p.components.take (p.segmentCount - n)) ↔
      n ≤ p.segmentCount) ∧
    (∀ n q, p.climb? n = some q → ∃ r, p.dropTrailing? n = some r ∧ (r == q) = true) ∧
    (∀ a k, a.nestingDepth? p = some k ↔ 1 ≤ k ∧ ∃ q, p.dropTrailing? k = some q ∧ (q == a) = true) ∧
    (∀ j k, (p.dropTrailing? j).bind (·.dropTrailing? k) = p.dropTrailing? (j + k)) ∧
    (∀ f : Folder, f.path = p → f.members.toList = [] → p.isEmpty = false →
      ∃ q, f.representative.parentDir? = some q ∧ (q == p) = true) := by
  refine ⟨parentDir?_eq_none_iff, ?_, fun n => isSome_climb?_iff, length_ancestors p, fun n => exists_dropTrailing?_iff,
    ?_, ?_, dropTrailing?_add p, ?_⟩
  · intro hlen
    obtain ⟨q, hq⟩ := exists_parentDir? hlen
    exact ⟨q, hq, components_of_parentDir? hq⟩
  · intro n q hq
    exact exists_dropTrailing?_of_climb? hq
  · intro a k
    exact nestingDepth?_eq_some_iff_dropTrailing?
  · rintro f rfl hmembers hpath
    exact Folder.liesIn_representative hmembers hpath

/-- A text with idle pieces in front, between and behind, a leading `.` that counts, and a `..`. -/
def untidy : Path := .ofText ".//./src/.//main/../a/./"

theorem climb_nest_cut_agree_untidy :
    untidy.segmentCount = 5 ∧
      (∃ q, untidy.parentDir? = some q ∧ q.components = [.here, .name "src", .name "main", .up]) ∧
      untidy.climb? 2 = some (.ofText ".//./src/.//main") ∧
      (∃ r, untidy.dropTrailing? 2 = some r ∧ (r == .ofText ".//./src/.//main") = true) ∧
      (Folder.ofKind .source untidy).members.toList = [] ∧ untidy.isEmpty = false ∧
      ∃ q, (Folder.ofKind .source untidy).representative.parentDir? = some q ∧ (q == untidy) = true := by
  obtain ⟨-, hparent, -, -, -, hcut, -, -, hplaceholder⟩ := climb_nest_cut_agree untidy
  have hclimb : untidy.climb? 2 = some (.ofText ".//./src/.//main") := by rfl
  exact ⟨by decide, hparent (by decide), hclimb, hcut 2 _ hclimb, by decide, by decide,
    hplaceholder (.ofKind .source untidy) rfl (by decide) (by decide)⟩

end Path

end RootFold
