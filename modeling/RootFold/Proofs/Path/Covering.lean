import RootFold.Proofs.Path.Steps

/-!
# `RootFold.Proofs.Path.Covering` — the order of directories and those inside them

A directory covers another when the climb from the other reaches it. On steps this is the prefix order with one
exception: the path without steps covers nothing but itself, since no climb ends there. Hence the directories
that cover a path form a chain, and different directories inside one never cover the same path.

## Contents
- **Steps.** `covers_iff`, `liesIn_iff`.
- **Order.** `Covers.refl`, `Covers.trans`, `Covers.total`, and `==` on either side.
- **Neighbours.** `LiesIn`, `covers_iff_beq_or_liesIn`, `Covers.of_liesIn_of_not_beq`, `LiesIn.beq_of_covers`.
- **By counting.** `IsAbove` is the strict prefix order on steps, which `nestingDepth?` measures; the climb sees all of it
  but what is below the path without steps, `exists_mem_ancestors_iff`.
-/

namespace RootFold.Path

variable {a b c d p q : Path}

/-- **One directory lies directly inside another.** -/
def LiesIn (c q : Path) : Prop := ∃ m, c.parentDir? = some m ∧ (m == q) = true

/-! ## Steps -/

theorem exists_concat_of_parentDir? (h : p.parentDir? = some q) : ∃ s, p.components = q.components ++ [s] :=
  ⟨p.components.getLast (components_ne_nil_of_parent? (parent?_of_parentDir? h)), by
    rw [components_of_parentDir? h, List.dropLast_concat_getLast]⟩

theorem covers_iff_parentDir? : q.Covers p ↔ (q == p) = true ∨ ∃ m, p.parentDir? = some m ∧ q.Covers m := by
  cases hpar : p.parentDir? with
  | none => simp [Covers, ancestors_of_parentDir?_eq_none hpar]
  | some m => simp [Covers, ancestors_of_parentDir?_eq_some hpar]

/-- **Covering is the prefix order on steps,** apart from the path without steps. -/
theorem covers_iff {p : Path} :
    q.Covers p ↔ q.components <+: p.components ∧ (q.components = [] → p.components = []) := by
  rw [covers_iff_parentDir?, beq_iff]
  cases hpar : p.parentDir? with
  | none =>
    have hlen := parentDir?_eq_none_iff.1 hpar
    constructor
    · rintro (h | ⟨m, hm, -⟩)
      · exact ⟨h ▸ List.prefix_refl _, fun hq => h ▸ hq⟩
      · exact absurd hm (by simp)
    · rintro ⟨hpre, hnil⟩
      refine .inl (hpre.eq_of_length ?_)
      have hle := hpre.length_le
      have : q.components.length = 0 → p.components.length = 0 := by simpa using hnil
      omega
  | some m =>
    have hne := components_ne_nil_of_parentDir? hpar
    obtain ⟨s, hs⟩ := exists_concat_of_parentDir? hpar
    have ih : q.Covers m ↔ q.components <+: m.components ∧ (q.components = [] → m.components = []) :=
      covers_iff
    simp only [Option.some.injEq, exists_eq_left', ih, hs, List.prefix_concat_iff]
    constructor
    · rintro (h | ⟨hpre, hnil⟩)
      · exact ⟨.inl h, fun hq => absurd (h ▸ hq) (by simp)⟩
      · exact ⟨.inr hpre, fun hq => absurd (hnil hq) hne⟩
    · rintro ⟨h | hpre, hnil⟩
      · exact .inl h
      · exact .inr ⟨hpre, fun hq => absurd (hnil hq) (by simp)⟩
termination_by p.components.length
decreasing_by exact length_components_of_parentDir? hpar

theorem liesIn_iff : c.LiesIn q ↔ q.components ≠ [] ∧ ∃ s, c.components = q.components ++ [s] := by
  constructor
  · rintro ⟨m, hm, he⟩
    rw [beq_iff] at he
    rw [← he]
    exact ⟨components_ne_nil_of_parentDir? hm, exists_concat_of_parentDir? hm⟩
  · rintro ⟨hne, s, hs⟩
    have hlen : 2 ≤ c.components.length := by
      have := List.length_pos_iff.2 hne
      rw [hs, List.length_append, List.length_singleton]
      omega
    obtain ⟨m, hm⟩ := exists_parentDir? hlen
    exact ⟨m, hm, beq_iff.2 (by rw [components_of_parentDir? hm, hs, List.dropLast_concat])⟩

/-! ## Order -/

@[simp] theorem Covers.refl (p : Path) : p.Covers p := .inl BEq.rfl

theorem Covers.of_beq (h : (q == p) = true) : q.Covers p := .inl h

theorem Covers.trans (hab : a.Covers b) (hbc : b.Covers c) : a.Covers c := by
  rw [covers_iff] at *
  exact ⟨hab.1.trans hbc.1, fun h => hbc.2 (hab.2 h)⟩

theorem Covers.congr (hab : (a == b) = true) (hcd : (c == d) = true) : a.Covers c ↔ b.Covers d := by
  rw [covers_iff, covers_iff, beq_iff.1 hab, beq_iff.1 hcd]

/-- **The directories that cover a path form a chain.** -/
theorem Covers.total (ha : a.Covers p) (hb : b.Covers p) : a.Covers b ∨ b.Covers a := by
  simp only [covers_iff] at *
  rcases List.prefix_or_prefix_of_prefix ha.1 hb.1 with h | h
  · exact .inl ⟨h, fun hnil => List.prefix_nil.1 (ha.2 hnil ▸ hb.1)⟩
  · exact .inr ⟨h, fun hnil => List.prefix_nil.1 (hb.2 hnil ▸ ha.1)⟩

/-! ## Neighbours -/

theorem LiesIn.congr (hab : (a == b) = true) (hcd : (c == d) = true) : a.LiesIn c ↔ b.LiesIn d := by
  rw [liesIn_iff, liesIn_iff, beq_iff.1 hab, beq_iff.1 hcd]

theorem LiesIn.of_parentDir? (h : c.parentDir? = some q) : c.LiesIn q := ⟨q, h, BEq.rfl⟩

theorem LiesIn.covers (h : c.LiesIn q) : q.Covers c := by
  obtain ⟨hne, s, hs⟩ := liesIn_iff.1 h
  exact covers_iff.2 ⟨hs ▸ List.prefix_append _ _, fun hq => absurd hq hne⟩

theorem LiesIn.length_eq (h : c.LiesIn q) : c.components.length = q.components.length + 1 := by
  obtain ⟨-, s, hs⟩ := liesIn_iff.1 h
  rw [hs, List.length_append, List.length_singleton]

theorem Covers.length_le (h : q.Covers p) : q.components.length ≤ p.components.length :=
  (covers_iff.1 h).1.length_le

theorem LiesIn.not_covers (h : c.LiesIn q) : ¬ c.Covers q := fun hc => by
  have := hc.length_le
  have := h.length_eq
  omega

theorem LiesIn.not_beq (h : c.LiesIn q) : ¬ (q == c) = true := fun he =>
  h.not_covers (.of_beq (BEq.symm he))

/-- There is one directory directly above another. -/
theorem LiesIn.beq (ha : c.LiesIn a) (hb : c.LiesIn b) : (a == b) = true := by
  obtain ⟨m, hm, hma⟩ := ha
  obtain ⟨n, hn, hnb⟩ := hb
  obtain rfl : m = n := Option.some.inj (hm.symm.trans hn)
  exact BEq.trans (BEq.symm hma) hnb

/-- **What covers a directory** and is another one covers the directory above. -/
theorem Covers.of_liesIn_of_not_beq (h : a.Covers c) (hne : ¬ (a == c) = true) (hc : c.LiesIn q) : a.Covers q := by
  rcases covers_iff_parentDir?.1 h with he | ⟨m, hm, ham⟩
  · exact absurd he hne
  · exact (Covers.congr BEq.rfl (LiesIn.beq (.of_parentDir? hm) hc)).1 ham

/-- **What a directory covers** is the directory itself or covered by one directly inside it. -/
theorem covers_iff_beq_or_liesIn {p : Path} :
    q.Covers p ↔ (q == p) = true ∨ ∃ c : Path, c.LiesIn q ∧ c.Covers p := by
  constructor
  · intro h
    rcases covers_iff_parentDir?.1 h with he | ⟨m, hm, hqm⟩
    · exact .inl he
    · have ih := covers_iff_beq_or_liesIn.1 hqm
      have hpm : p.LiesIn m := .of_parentDir? hm
      rcases ih with he | ⟨c, hc, hcm⟩
      · exact .inr ⟨p, (LiesIn.congr BEq.rfl (BEq.symm he)).1 hpm, .refl p⟩
      · exact .inr ⟨c, hc, hcm.trans hpm.covers⟩
  · rintro (he | ⟨c, hc, hcp⟩)
    · exact .of_beq he
    · exact hc.covers.trans hcp
termination_by p.components.length
decreasing_by exact length_components_of_parentDir? hm

/-- **Different directories inside one** cover nothing in common. -/
theorem LiesIn.beq_of_covers (hc : c.LiesIn q) (hd : d.LiesIn q) (hcp : c.Covers p) (hdp : d.Covers p) :
    (c == d) = true := by
  have hlen : c.components.length = d.components.length := hc.length_eq.trans hd.length_eq.symm
  rcases hcp.total hdp with h | h
  · exact beq_iff.2 ((covers_iff.1 h).1.eq_of_length hlen)
  · exact beq_iff.2 ((covers_iff.1 h).1.eq_of_length hlen.symm).symm

/-! ## By counting -/

/-- **One path is above another** when the other has all its steps and more. -/
structure IsAbove (q p : Path) : Prop where
  begins : q.components <+: p.components
  shorter : q.components.length < p.components.length

theorem IsAbove.trans (hab : a.IsAbove b) (hbc : b.IsAbove c) : a.IsAbove c where
  begins := hab.begins.trans hbc.begins
  shorter := Nat.lt_trans hab.shorter hbc.shorter

theorem LiesIn.isAbove (h : c.LiesIn q) : q.IsAbove c where
  begins := (covers_iff.1 h.covers).1
  shorter := by
    have := h.length_eq
    omega

theorem isAbove_iff_nestingDepth? {p : Path} : q.IsAbove p ↔ ∃ n, q.nestingDepth? p = some n := by
  constructor
  · intro h
    obtain ⟨n, hn⟩ := Nat.exists_eq_add_of_lt h.shorter
    exact ⟨n + 1, nestingDepth?_eq_some_iff.2 ⟨h.begins, by omega, by omega⟩⟩
  · rintro ⟨n, hn⟩
    obtain ⟨hpre, hlen, hpos⟩ := nestingDepth?_eq_some_iff.1 hn
    exact ⟨hpre, by omega⟩

theorem length_of_mem_ancestors {p a : Path} (h : a ∈ p.ancestors) : a.components.length < p.components.length := by
  cases hpar : p.parentDir? with
  | none =>
    rw [ancestors_of_parentDir?_eq_none hpar] at h
    exact absurd h List.not_mem_nil
  | some q =>
    have hlt := length_components_of_parentDir? hpar
    rw [ancestors_of_parentDir?_eq_some hpar] at h
    rcases List.mem_cons.1 h with rfl | h
    · exact hlt
    · exact Nat.lt_trans (length_of_mem_ancestors h) hlt
termination_by p.components.length
decreasing_by exact hlt

/-- **The climb reaches all paths above** but the empty one. -/
theorem exists_mem_ancestors_iff {p : Path} :
    (∃ a ∈ p.ancestors, (q == a) = true) ↔ q.isEmpty = false ∧ q.IsAbove p := by
  constructor
  · rintro ⟨a, ha, hqa⟩
    have hcov : q.Covers p := .inr ⟨a, ha, hqa⟩
    have hlt : q.components.length < p.components.length := by
      rw [beq_iff.1 hqa]
      exact length_of_mem_ancestors ha
    refine ⟨?_, (covers_iff.1 hcov).1, hlt⟩
    cases hempty : q.isEmpty with
    | false => rfl
    | true =>
      have hnil := (covers_iff.1 hcov).2 (components_eq_nil_iff.2 hempty)
      simp [hnil] at hlt
  · rintro ⟨hne, habove⟩
    have hcov : q.Covers p := by
      refine covers_iff.2 ⟨habove.begins, fun hnil => ?_⟩
      simp [components_eq_nil_iff.1 hnil] at hne
    rcases hcov with he | hmem
    · have hlt := habove.shorter
      rw [beq_iff.1 he] at hlt
      exact absurd hlt (Nat.lt_irrefl _)
    · exact hmem

end RootFold.Path
