import RootFold.Proofs.Merge.Collapse

/-!
# `RootFold.Proofs.Merge.Absorption` — the absorption test

The test answers for any folder strictly below another, and it says what `Absorbs` says: the dropped steps of a
namespace are counted like the steps between the directories. A walk tests one level at a time, but the test itself is
asked about folders any number of levels apart, and there its parts add up: kinds and flags are compared for equality,
the counts of steps are sums, and the upper namespace must keep a step at every level. So once a folder may absorb one
below it, nothing that is above both can tell the two apart.

## Contents
- **One test.** `exists_verdict`, `exists_canMerge`, `canMerge_eq_ok_true_iff`; `isAbove_of_canMerge`.
- **Several levels.** `canMerge_eq_of_between`.
-/

namespace RootFold

variable {ns : NamespaceCache} {upper middle lower : Folder}

/-! ## One test -/

private theorem not_isFavourable {v : Verdict} (h : v.isFavourable = false) {P : Prop} (hP : ¬ P) :
    v.isFavourable = true ↔ P :=
  ⟨fun hv => absurd hv (by simp [h]), fun hp => absurd hp hP⟩

/-- The namespaces part of the test. -/
private theorem isFavourable_iff_follows {upper lower : Path} {depth : Nat}
    (hdepth : lower.components.length = upper.components.length + depth) :
    (match ns.lookup upper, ns.lookup lower with
      | none, _ => Verdict.unplaced upper
      | some _, none => .unplaced lower
      | some upperNs, some lowerNs =>
        if lowerNs.segmentCount ≤ depth then .tooShallow
        else if (lowerNs.dropTrailing? depth).any (· == upperNs) then .absorbs
        else .layoutsDiffer).isFavourable = true ↔ ns.Follows upper lower := by
  cases hu : ns.lookup upper with
  | none =>
    refine not_isFavourable rfl ?_
    rintro ⟨u, l, hu', -⟩
    exact absurd (hu.symm.trans hu') (by simp)
  | some u =>
    cases hl : ns.lookup lower with
    | none =>
      refine not_isFavourable rfl ?_
      rintro ⟨u', l, -, hl', -⟩
      exact absurd (hl.symm.trans hl') (by simp)
    | some l =>
      rw [NamespaceCache.follows_iff hu hl]
      simp only
      split
      · next hshallow =>
        refine not_isFavourable rfl ?_
        rintro ⟨hne, tail, htail, hlen⟩
        have := List.length_pos_iff.2 hne
        rw [Path.segmentCount, htail, List.length_append] at hshallow
        omega
      · next hdeep =>
        have htail : (∃ tail, l.components = u.components ++ tail ∧ tail.length = depth) ↔
            ∃ tail, l.components = u.components ++ tail ∧
              upper.components.length + tail.length = lower.components.length := by
          rw [hdepth]
          simp only [Nat.add_left_cancel_iff]
        rw [← htail, ← Path.dropTrailing?_any_beq (Nat.lt_of_not_le hdeep)]
        split
        · next hany => exact ⟨fun _ => hany, fun _ => rfl⟩
        · next hany => exact not_isFavourable rfl hany

/-- **The test has an answer** for a folder strictly below another. -/
theorem exists_verdict (ns : NamespaceCache) {parent child : Folder} (h : parent.path.IsAbove child.path) :
    ∃ v, verdict parent child ns = .ok v ∧ (v.isFavourable = true ↔ Absorbs ns parent child) := by
  obtain ⟨depth, hnest⟩ := Path.isAbove_iff_nestingDepth?.1 h
  obtain ⟨-, hdepth, -⟩ := Path.nestingDepth?_eq_some_iff.1 hnest
  rw [verdict, hnest]
  refine ⟨_, rfl, ?_⟩
  split
  · next hkind => exact not_isFavourable rfl fun h => absurd h.kind (by simpa using hkind)
  · next hkind =>
    have hkind : parent.kind = child.kind := by simpa using hkind
    split
    · next hflag => exact not_isFavourable rfl fun h => absurd h.flag (by simpa using hflag)
    · next hflag =>
      have hflag : parent.wantsNamespacePrefix = child.wantsNamespacePrefix := by simpa using hflag
      split
      · next hplain =>
        have hplain : parent.wantsNamespacePrefix = false := by simpa using hplain
        exact ⟨fun _ => ⟨hkind, hflag, fun h => absurd h (by simp [hplain])⟩, fun _ => rfl⟩
      · next hwants =>
        have hwants : parent.wantsNamespacePrefix = true := by simpa using hwants
        have hfollows : Absorbs ns parent child ↔ ns.Follows parent.path child.path :=
          ⟨fun h => h.follows hwants, fun h => ⟨hkind, hflag, fun _ => h⟩⟩
        exact (isFavourable_iff_follows hdepth).trans hfollows.symm

theorem exists_canMerge (ns : NamespaceCache) {parent child : Folder} (h : parent.path.IsAbove child.path) :
    ∃ b, canMerge parent child ns = .ok b ∧ (b = true ↔ Absorbs ns parent child) := by
  obtain ⟨v, hv, hfav⟩ := exists_verdict ns h
  refine ⟨v.isFavourable, ?_, hfav⟩
  rw [canMerge, hv]
  rfl

/-- The test is passed by the folders that may be absorbed. -/
theorem canMerge_eq_ok_true_iff (ns : NamespaceCache) {parent child : Folder}
    (hpre : parent.path.components <+: child.path.components)
    (hlt : parent.path.components.length < child.path.components.length) :
    canMerge parent child ns = .ok true ↔ Absorbs ns parent child := by
  obtain ⟨b, hb, hiff⟩ := exists_canMerge ns ⟨hpre, hlt⟩
  rw [hb, ← hiff, Except.ok.injEq]

/-- There is no answer unless the folder lies below the other. -/
theorem isAbove_of_canMerge {parent child : Folder} {b : Bool} (h : canMerge parent child ns = .ok b) :
    parent.path.IsAbove child.path := by
  apply Path.isAbove_iff_nestingDepth?.2
  cases hnest : parent.path.nestingDepth? child.path with
  | none =>
    rw [canMerge, verdict, hnest] at h
    exact absurd h nofun
  | some n => exact ⟨n, rfl⟩

/-! ## Several levels -/

/-- **Absorption composes.** Let one folder lie below another, in whatever spelling, and let it be free to absorb a third
    one. Then the uppermost has the same answer for the third as for the second: what may be absorbed level by level may
    be absorbed at once, and whoever may absorb the lowest one may absorb the one between. -/
theorem canMerge_eq_of_between (ns : NamespaceCache) (habove : ∃ n, upper.path.nestingDepth? middle.path = some n)
    (h : canMerge middle lower ns = .ok true) : canMerge upper lower ns = canMerge upper middle ns := by
  have hum : upper.path.IsAbove middle.path := Path.isAbove_iff_nestingDepth?.2 habove
  have hml : middle.path.IsAbove lower.path := isAbove_of_canMerge h
  have habsorbs : Absorbs ns middle lower := (canMerge_eq_ok_true_iff ns hml.begins hml.shorter).1 h
  obtain ⟨b, hb, hbiff⟩ := exists_canMerge ns hum
  obtain ⟨b', hb', hbiff'⟩ := exists_canMerge ns (hum.trans hml)
  have hsame : b' = b := by
    rw [Bool.eq_iff_iff, hbiff', hbiff]
    exact Absorbs.iff_of_between hum habsorbs
  rw [hb, hb', hsame]

/-- Namespaces that follow the directories from `java` on. -/
def javaNamespaces : NamespaceCache :=
  .place .empty [(.ofText "java", .ofText "org"), (.ofText "java/com", .ofText "org//com"),
    (.ofText "java/com/app", .ofText "org/com/app")]

theorem canMerge_eq_of_between_java :
    (∃ n, (Path.ofText "java").nestingDepth? (.ofText "java//com/") = some n) ∧
    canMerge (.ofKind .source (.ofText "java//com/")) (.ofKind .source (.ofText "java/com/./app")) javaNamespaces =
      .ok true ∧
    canMerge (.ofKind .source (.ofText "java")) (.ofKind .source (.ofText "java/com/./app")) javaNamespaces =
      .ok true := by
  have habove : ∃ n, (Path.ofText "java").nestingDepth? (.ofText "java//com/") = some n := ⟨1, by decide⟩
  have hlower : canMerge (.ofKind .source (.ofText "java//com/")) (.ofKind .source (.ofText "java/com/./app"))
      javaNamespaces = .ok true := by rfl
  have hupper : canMerge (.ofKind .source (.ofText "java")) (.ofKind .source (.ofText "java//com/")) javaNamespaces =
      .ok true := by rfl
  refine ⟨habove, hlower, ?_⟩
  rw [canMerge_eq_of_between javaNamespaces habove hlower, hupper]

end RootFold
