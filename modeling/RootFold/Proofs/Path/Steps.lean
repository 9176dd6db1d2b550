import RootFold.Path.Nesting

/-!
# `RootFold.Proofs.Path.Steps` — every operation on paths, read off the steps

A path is compared by its steps but taken apart, cut and joined as a text. This file says for each of these
operations what it does to `Path.components`, so that nothing further on has to look at a text again.

## Contents
- **Shape.** `Component.IsInner`, `exists_lead_components`: at most one leading step, then names and `..`.
- **Plain spelling.** `components_ofComponents`, `ofComponents_names`, `components_dropTrailing?`,
  `exists_dropTrailing?_iff`, `dropTrailing?_any_beq_iff`.
- **Tails.** `components_dropSteps`, `nestingDepth?_eq_some_iff`.
- **Upward.** `components_eq_nil_iff`, `parentDir?_eq_none_iff`, `components_ne_nil_of_parentDir?`, `exists_parentDir?`.
- **Last steps.** `fileName?_eq_some_iff`, `fileName?_eq_none_iff`.
- **Joining.** `components_read_append`, `components_join`, `components_join_name`.
-/

namespace RootFold

/-! ## Shape -/

/-- **A step that a piece between slashes stands for:** `..` or an ordinary name. -/
def Component.IsInner (c : Component) : Prop :=
  '/' ∉ c.text.toList ∧ Piece.component? c.text.toList = some c

theorem Piece.text_of_component? {piece : Piece} {c : Component} (h : Piece.component? piece = some c) :
    c.text.toList = piece := by
  unfold Piece.component? at h
  split at h
  · exact absurd h (by simp)
  · exact absurd h (by simp)
  · obtain rfl := Option.some.inj h
    rfl
  · obtain rfl := Option.some.inj h
    simp [Component.text]

theorem Component.IsInner.of_piece {piece : Piece} {c : Component} (hs : '/' ∉ piece)
    (h : Piece.component? piece = some c) : c.IsInner := by
  rw [Component.IsInner, Piece.text_of_component? h]
  exact ⟨hs, h⟩

/-- The steps that may stand in front of the inner ones: the root, a leading `.`, or nothing. -/
theorem Lead.components_eq (l : Lead) : l.components = [] ∨ l.components = [.root] ∨ l.components = [.here] := by
  cases l <;> simp [Lead.components]

namespace Spelling

theorem isInner_of_tidy {s : Spelling} (hs : s.Tidy) :
    ∀ c ∈ s.body.filterMap Piece.component?, c.IsInner := by
  intro c hc
  obtain ⟨piece, hp, hcomp⟩ := List.mem_filterMap.1 hc
  exact .of_piece (hs.no_slash piece hp) hcomp

end Spelling

/-- **The steps of a path:** the lead, then inner steps only. -/
theorem Path.exists_lead_components (p : Path) :
    ∃ (lead : Lead) (inner : List Component), p.components = lead.components ++ inner ∧ ∀ c ∈ inner, c.IsInner :=
  ⟨p.spelling.lead, _, p.components_eq, Spelling.isInner_of_tidy (Spelling.tidy_read _)⟩

/-! ## Plain spelling -/

namespace Spelling

theorem filterMap_component?_text {inner : List Component} (h : ∀ c ∈ inner, c.IsInner) :
    (inner.map (·.text.toList)).filterMap Piece.component? = inner := by
  induction inner with
  | nil => rfl
  | cons c rest ih =>
    rw [List.map_cons, List.filterMap_cons, (h c (by simp)).2, ih fun d hd => h d (by simp [hd])]

/-- The plain spelling of a lead and inner steps. -/
theorem ofComponents_append (lead : Lead) {inner : List Component} (h : ∀ c ∈ inner, c.IsInner) :
    ofComponents (lead.components ++ inner) = ⟨lead, inner.map (·.text.toList)⟩ := by
  cases lead with
  | root => rfl
  | here => rfl
  | plain =>
    cases inner with
    | nil => rfl
    | cons c rest =>
      have hc := (h c (by simp)).1
      cases c with
      | root => exact absurd hc (by decide)
      | here => exact absurd (h .here (by simp)).2 (by decide)
      | up => rfl
      | name s => rfl

theorem tidy_of_inner (lead : Lead) {inner : List Component} (h : ∀ c ∈ inner, c.IsInner) :
    Tidy ⟨lead, inner.map (·.text.toList)⟩ := by
  refine ⟨fun piece hp => ?_, fun _ piece rest hb => ?_⟩
  · obtain ⟨c, hc, rfl⟩ := List.mem_map.1 hp
    exact (h c hc).1
  · cases inner with
    | nil => exact absurd hb (by simp)
    | cons c cs =>
      obtain ⟨rfl, -⟩ := List.cons.inj hb
      have hc := (h c (by simp)).2
      exact ⟨fun he => by simp [he, Piece.component?] at hc, fun he => by simp [he, Piece.component?] at hc⟩

end Spelling

namespace Path

/-- **The plain spelling keeps the steps.** -/
theorem components_ofComponents (lead : Lead) {inner : List Component} (h : ∀ c ∈ inner, c.IsInner) :
    (ofComponents (lead.components ++ inner)).components = lead.components ++ inner := by
  rw [ofComponents, Spelling.ofComponents_append lead h, components_ofSpelling (Spelling.tidy_of_inner lead h),
    Spelling.components, Spelling.filterMap_component?_text h]

/-- Names in their plain spelling are the names with slashes between. -/
theorem ofComponents_names (names : List String) :
    ofComponents (names.map .name) = ofText ("/".intercalate names) := by
  have hspell : Spelling.ofComponents (names.map .name) = ⟨.plain, names.map String.toList⟩ := by
    cases names with
    | nil => rfl
    | cons first rest => simp [Spelling.ofComponents, Component.text]
  apply ext_text
  show String.ofList (Spelling.ofComponents (names.map .name)).write = "/".intercalate names
  rw [hspell, ← String.toList_inj, String.toList_ofList, String.toList_intercalate]
  rfl

theorem components_ofComponents_take (p : Path) (n : Nat) :
    (ofComponents (p.components.take n)).components = p.components.take n := by
  obtain ⟨lead, inner, hp, hinner⟩ := p.exists_lead_components
  rcases Nat.eq_zero_or_pos n with rfl | hn
  · simp only [List.take_zero]
    exact components_ofComponents .plain fun c hc => absurd hc List.not_mem_nil
  · have htake : p.components.take n = lead.components ++ inner.take (n - lead.components.length) := by
      have hlen : lead.components.length ≤ n := by cases lead <;> simp [Lead.components] <;> omega
      rw [hp, List.take_append, List.take_of_length_le hlen]
    rw [htake]
    exact components_ofComponents lead fun c hc => hinner c (List.mem_of_mem_take hc)

theorem dropTrailing?_eq_some {p : Path} {n : Nat} (h : n ≤ p.segmentCount) :
    p.dropTrailing? n = some (ofComponents (p.components.take (p.segmentCount - n))) := by
  rw [dropTrailing?, if_neg (by omega)]

theorem dropTrailing?_eq_none {p : Path} {n : Nat} (h : p.segmentCount < n) : p.dropTrailing? n = none := by
  rw [dropTrailing?, if_pos h]

/-- **Dropping steps at the end** drops them from the list of steps. -/
theorem components_dropTrailing? {p q : Path} {n : Nat} (h : p.dropTrailing? n = some q) :
    q.components = p.components.take (p.components.length - n) := by
  unfold dropTrailing? at h
  split at h
  · exact absurd h (by simp)
  · obtain rfl := Option.some.inj h
    rw [components_ofComponents_take]
    rfl

/-- **There is a cut** of no more steps than there are, and it keeps the first ones. -/
theorem exists_dropTrailing?_iff {p : Path} {n : Nat} :
    (∃ r, p.dropTrailing? n = some r ∧ r.components = p.components.take (p.segmentCount - n)) ↔ n ≤ p.segmentCount := by
  constructor
  · rintro ⟨r, hr, -⟩
    refine Nat.le_of_not_lt fun hn => ?_
    rw [dropTrailing?_eq_none hn] at hr
    exact absurd hr (by simp)
  · intro hn
    exact ⟨_, dropTrailing?_eq_some hn, components_ofComponents_take p _⟩

/-- **Dropping steps at the end gives a path** exactly when the dropped steps stand behind those of that path. -/
theorem dropTrailing?_any_beq_iff {p q : Path} {n : Nat} :
    (p.dropTrailing? n).any (· == q) = true ↔ ∃ tail, p.components = q.components ++ tail ∧ tail.length = n := by
  rw [Option.any_eq_true]
  constructor
  · rintro ⟨r, hr, hrq⟩
    have hfront : r.components = p.components.take (p.components.length - n) := components_dropTrailing? hr
    have hn : n ≤ p.components.length := exists_dropTrailing?_iff.1 ⟨r, hr, hfront⟩
    refine ⟨p.components.drop (p.components.length - n), ?_, ?_⟩
    · rw [← beq_iff.1 hrq, hfront, List.take_append_drop]
    · rw [List.length_drop]
      omega
  · rintro ⟨tail, htail, hlen⟩
    have hcount : p.segmentCount = q.components.length + n := by
      rw [segmentCount, htail, List.length_append, hlen]
    obtain ⟨r, hr, hfront⟩ := exists_dropTrailing?_iff.2 (show n ≤ p.segmentCount by omega)
    refine ⟨r, hr, beq_iff.2 ?_⟩
    rw [hfront, htail]
    exact List.take_left' (by omega)

/-- As long as a step is left, the path in front has one. -/
theorem dropTrailing?_any_beq {p q : Path} {n : Nat} (h : n < p.components.length) :
    (p.dropTrailing? n).any (· == q) = true ↔
      q.components ≠ [] ∧ ∃ tail, p.components = q.components ++ tail ∧ tail.length = n := by
  rw [dropTrailing?_any_beq_iff]
  constructor
  · rintro ⟨tail, htail, hlen⟩
    refine ⟨fun hnil => ?_, tail, htail, hlen⟩
    rw [htail, hnil, List.nil_append, hlen] at h
    exact Nat.lt_irrefl n h
  · exact And.right

/-! ## Tails -/

end Path

namespace Spelling

private theorem isIdle_of_dropWhile {pieces rest : List Piece} {piece : Piece}
    (h : pieces.dropWhile Piece.isIdle = piece :: rest) : Piece.isIdle piece = false := by
  have := List.head?_dropWhile_not Piece.isIdle pieces
  simpa [h] using this

private theorem filterMap_dropWhile_isIdle (pieces : List Piece) :
    (pieces.dropWhile Piece.isIdle).filterMap Piece.component? = pieces.filterMap Piece.component? := by
  induction pieces with
  | nil => rfl
  | cons piece rest ih =>
    by_cases h : Piece.isIdle piece = true
    · have hn : Piece.component? piece = none := by simpa [Piece.isIdle] using h
      simp [h, ih, hn]
    · simp [h]

theorem filterMap_dropPieces (n : Nat) (pieces : List Piece) :
    (dropPieces n pieces).filterMap Piece.component? = (pieces.filterMap Piece.component?).drop n := by
  induction n generalizing pieces with
  | zero => exact filterMap_dropWhile_isIdle pieces
  | succ n ih =>
    rw [dropPieces, ih, ← filterMap_dropWhile_isIdle pieces]
    cases hd : pieces.dropWhile Piece.isIdle with
    | nil => simp
    | cons piece rest =>
      have hbusy := isIdle_of_dropWhile hd
      obtain ⟨c, hc⟩ : ∃ c, Piece.component? piece = some c := by
        cases hcomp : Piece.component? piece with
        | none => simp [Piece.isIdle, hcomp] at hbusy
        | some c => exact ⟨c, rfl⟩
      simp [hc]

private theorem dropPieces_isSuffix (n : Nat) (pieces : List Piece) : dropPieces n pieces <:+ pieces := by
  induction n generalizing pieces with
  | zero => exact List.dropWhile_suffix _
  | succ n ih => exact ((ih _).trans (List.drop_suffix _ _)).trans (List.dropWhile_suffix _)

private theorem isIdle_head_dropPieces (n : Nat) {pieces rest : List Piece} {piece : Piece}
    (h : dropPieces n pieces = piece :: rest) : Piece.isIdle piece = false := by
  induction n generalizing pieces with
  | zero => exact isIdle_of_dropWhile h
  | succ n ih => exact ih h

theorem Tidy.dropSteps {s : Spelling} (hs : s.Tidy) (n : Nat) : (s.dropSteps n).Tidy := by
  unfold Spelling.dropSteps
  split
  · exact hs
  · refine ⟨fun piece hp => hs.no_slash piece ((dropPieces_isSuffix _ _).mem hp), fun _ piece rest hb => ?_⟩
    have hidle := isIdle_head_dropPieces _ hb
    exact ⟨by rintro rfl; exact absurd hidle (by decide), by rintro rfl; exact absurd hidle (by decide)⟩

/-- **What is left after the first steps** has the other steps. -/
theorem components_dropSteps (s : Spelling) (n : Nat) : (s.dropSteps n).components = s.components.drop n := by
  unfold dropSteps
  split
  · next h => rw [h, List.drop_zero]
  · next h =>
    have hlen : s.lead.components.length ≤ n := by
      cases s.lead <;> simp [Lead.components] <;> omega
    rw [components, components, filterMap_dropPieces, List.drop_append, List.drop_of_length_le hlen]
    rfl

end Spelling

namespace Path

theorem components_stripPrefix? {p q r : Path} (h : p.stripPrefix? q = some r) :
    r.components = p.components.drop q.components.length := by
  unfold stripPrefix? at h
  split at h
  · obtain rfl := Option.some.inj h
    rw [spelling, components_ofSpelling ((Spelling.tidy_read _).dropSteps _), Spelling.components_dropSteps,
      p.components_eq]
  · exact absurd h (by simp)

theorem startsWith_iff {p q : Path} : p.startsWith q = true ↔ q.components <+: p.components :=
  List.isPrefixOf_iff_prefix

/-- **How far one path lies below another:** by the steps it has more. -/
theorem nestingDepth?_eq_some_iff {p q : Path} {n : Nat} :
    q.nestingDepth? p = some n ↔
      q.components <+: p.components ∧ p.components.length = q.components.length + n ∧ 0 < n := by
  by_cases hpre : q.components <+: p.components
  · obtain ⟨r, hr⟩ : ∃ r, p.stripPrefix? q = some r := by
      rw [stripPrefix?, if_pos (startsWith_iff.2 hpre)]
      exact ⟨_, rfl⟩
    have hlen := hpre.length_le
    have hcount : r.segmentCount = p.components.length - q.components.length := by
      rw [segmentCount, components_stripPrefix? hr, List.length_drop]
    rw [nestingDepth?, hr, Option.map_some, Option.filter_eq_some_iff, Option.some.injEq, hcount, decide_eq_true_eq]
    exact ⟨fun ⟨h, hpos⟩ => ⟨hpre, by omega, hpos⟩, fun ⟨_, h, hpos⟩ => ⟨by omega, hpos⟩⟩
  · have hnone : p.stripPrefix? q = none := by
      rw [stripPrefix?, if_neg fun h => hpre (startsWith_iff.1 h)]
    simp [nestingDepth?, hnone, hpre]

end Path

/-! ## Upward -/

namespace Spelling

/-- A tidy spelling without steps is written as nothing. -/
theorem write_eq_nil_of_components {s : Spelling} (hs : s.Tidy) (h : s.components = []) : s.write = [] := by
  obtain ⟨lead, body⟩ := s
  obtain ⟨hlead, hbody⟩ := List.append_eq_nil_iff.1 h
  cases lead with
  | root => exact absurd hlead (by simp [Lead.components])
  | here => exact absurd hlead (by simp [Lead.components])
  | plain =>
    cases body with
    | nil => rfl
    | cons piece rest =>
      obtain ⟨hdot, hempty⟩ := hs.plain_head rfl piece rest rfl
      have hidle : Piece.component? piece = none := List.filterMap_eq_nil_iff.1 hbody piece List.mem_cons_self
      -- an idle first piece is empty, and then it is the only one
      have hpiece : piece = [] := by
        unfold Piece.component? at hidle
        split at hidle
        · rfl
        · exact absurd rfl hdot
        · exact absurd hidle (by simp)
        · exact absurd hidle (by simp)
      rw [hpiece, hempty hpiece]
      rfl

end Spelling

namespace Path

@[simp] theorem components_empty : empty.components = [] := by decide

theorem eq_empty_of_isEmpty {p : Path} (h : p.isEmpty = true) : p = empty :=
  ext_text (by simpa [isEmpty, empty] using h)

/-- **Only the empty text has no steps.** -/
theorem components_eq_nil_iff {p : Path} : p.components = [] ↔ p.isEmpty = true := by
  constructor
  · intro h
    have hwrite : p.text.toList = [] := by
      rw [← Spelling.write_read p.text.toList]
      exact Spelling.write_eq_nil_of_components (Spelling.tidy_read _) (p.components_eq.symm.trans h)
    simpa [isEmpty] using hwrite
  · intro h
    rw [eq_empty_of_isEmpty h, components_empty]

theorem components_of_parentDir? {p q : Path} (h : p.parentDir? = some q) :
    q.components = p.components.dropLast :=
  components_of_parent? (parent?_of_parentDir? h)

/-- **A directory above another has steps.** -/
theorem components_ne_nil_of_parentDir? {p q : Path} (h : p.parentDir? = some q) : q.components ≠ [] := by
  intro hnil
  obtain ⟨-, hne⟩ := Option.filter_eq_some_iff.1 h
  rw [components_eq_nil_iff.1 hnil] at hne
  exact absurd hne (by simp)

/-- **The climb ends at one step.** -/
theorem parentDir?_eq_none_iff {p : Path} : p.parentDir? = none ↔ p.components.length ≤ 1 := by
  constructor
  · intro h
    cases hpar : p.parent? with
    | none =>
      have hs : p.spelling.parent? = none := by simpa [parent?] using hpar
      rcases Spelling.components_of_parent?_eq_none hs with hc | hc <;>
        rw [components_spelling] at hc <;> simp [hc]
    | some q =>
      have hq : q.isEmpty = true := by simpa [parentDir?, hpar] using h
      have hlen : (p.components.dropLast).length = 0 := by
        rw [← components_of_parent? hpar, eq_empty_of_isEmpty hq, components_empty]
        rfl
      rw [List.length_dropLast] at hlen
      omega
  · intro h
    cases hpar : p.parentDir? with
    | none => rfl
    | some q =>
      refine absurd ?_ (components_ne_nil_of_parentDir? hpar)
      rw [components_of_parentDir? hpar, ← List.length_eq_zero_iff, List.length_dropLast]
      omega

theorem exists_parentDir? {p : Path} (h : 2 ≤ p.components.length) : ∃ q, p.parentDir? = some q :=
  Option.ne_none_iff_exists'.1 fun hn => by
    have := parentDir?_eq_none_iff.1 hn
    omega

/-- The directory a file is said to be in has all its steps but the last, also when there is none above it. -/
theorem components_parent?_getD (p : Path) : (p.parent?.getD empty).components = p.components.dropLast := by
  cases hpar : p.parent? with
  | some q => exact components_of_parent? hpar
  | none =>
    have hs : p.spelling.parent? = none := by simpa [parent?] using hpar
    rcases Spelling.components_of_parent?_eq_none hs with hc | hc <;>
      rw [components_spelling] at hc <;> simp [hc]

/-! ## Last steps -/

/-- **A file name** is the last step, if that is an ordinary name. -/
theorem fileName?_eq_some_iff {p : Path} {s : String} :
    p.fileName? = some s ↔ ∃ front, p.components = front ++ [.name s] := by
  rw [fileName?]
  constructor
  · intro h
    split at h
    · next name hlast =>
      obtain rfl := Option.some.inj h
      obtain ⟨front, hfront⟩ := List.getLast?_eq_some_iff.1 hlast
      exact ⟨front, hfront⟩
    · exact absurd h (by simp)
  · rintro ⟨front, hfront⟩
    rw [hfront, List.getLast?_append, List.getLast?_singleton]
    rfl

theorem fileName?_eq_none_iff {p : Path} :
    p.fileName? = none ↔ ∀ front s, p.components ≠ front ++ [.name s] := by
  rw [Option.eq_none_iff_forall_ne_some]
  constructor
  · intro h front s hp
    exact h s (fileName?_eq_some_iff.2 ⟨front, hp⟩)
  · intro h s hs
    obtain ⟨front, hp⟩ := fileName?_eq_some_iff.1 hs
    exact h front s hp

/-! ## Joining -/

end Path

namespace Spelling

/-- **A text with another put behind it,** after a slash, has the steps of the other's pieces behind its own. -/
theorem components_read_append {text : List Char} (ht : text ≠ []) (tail : List Char) :
    (read (text ++ '/' :: tail)).components =
      (read text).components ++ (tail.splitOn '/').filterMap Piece.component? := by
  obtain ⟨c, rest, rfl⟩ : ∃ c rest, text = c :: rest := List.exists_cons_of_ne_nil ht
  have hcut : ∀ front : List Char, (front ++ '/' :: tail).splitOn '/' = front.splitOn '/' ++ tail.splitOn '/' :=
    fun front => List.splitOn_append_cons_self front tail
  by_cases hc : c = '/'
  · subst hc
    rw [List.cons_append, read_slash, read_slash, hcut]
    simp only [components, List.filterMap_append, List.append_assoc]
  · have hhead : ∀ tail : List Char, (c :: tail).head? ≠ some '/' := by simp [hc]
    rw [List.cons_append, read_of_head_ne (hhead _), read_of_head_ne (hhead _), ← List.cons_append, hcut]
    cases hs : (c :: rest).splitOn '/' with
    | nil => exact absurd hs (List.splitOn_ne_nil _ _)
    | cons first others =>
      rw [List.cons_append]
      by_cases hdot : first = ['.']
      · subst hdot
        simp only [components, List.filterMap_append, List.append_assoc]
      · split
        · next heq => exact absurd (List.cons.inj heq).1 hdot
        · split
          · next heq => exact absurd (List.cons.inj heq).1 hdot
          · simp only [components, ← List.cons_append, List.filterMap_append, List.append_assoc]

/-- A text of inner steps only has no lead, and its steps are those of its pieces. -/
theorem read_of_inner {text : List Char} (h : ∀ c ∈ (read text).components, c.IsInner) :
    text.head? ≠ some '/' ∧ (read text).components = (text.splitOn '/').filterMap Piece.component? := by
  have hhead : text.head? ≠ some '/' := by
    intro hslash
    obtain ⟨rest, rfl⟩ := List.head?_eq_some_iff.1 hslash
    refine absurd (h .root ?_).1 (by decide)
    rw [read_slash]
    exact List.mem_cons_self
  rw [read_of_head_ne hhead] at h ⊢
  refine ⟨hhead, ?_⟩
  split at h
  · exact absurd (h .here List.mem_cons_self).2 (by decide)
  · rfl

end Spelling

namespace Path

/-- **A path joined with one of inner steps** has the steps of both. -/
theorem components_join {p q : Path} (hq : ∀ c ∈ q.components, c.IsInner) :
    (p.join q).components = p.components ++ q.components := by
  obtain ⟨hhead, hsteps⟩ := Spelling.read_of_inner (q.components_eq ▸ hq)
  rw [← q.components_eq] at hsteps
  have hbehind : ∀ front : List Char, front ≠ [] →
      (Spelling.read (front ++ '/' :: q.text.toList)).components =
        (Spelling.read front).components ++ q.components := by
    intro front hfront
    rw [Spelling.components_read_append hfront, hsteps]
  rw [join, if_neg (by simpa [isAbsolute] using hhead)]
  split
  · next hend =>
    rcases Bool.or_eq_true_iff.1 hend with hempty | hslash
    · rw [eq_empty_of_isEmpty hempty, components_empty]
      simp [empty]
    · -- a slash at the end of the front takes the place of the one between
      obtain ⟨front, hfront⟩ : ∃ front, p.text.toList = front ++ ['/'] :=
        List.getLast?_eq_some_iff.1 (by simpa using hslash)
      have hp : p.components = (Spelling.read (front ++ ['/'])).components := by rw [p.components_eq, hfront]
      show (Spelling.read (p.text ++ q.text).toList).components = _
      rw [String.toList_append, hfront, hp, List.append_assoc, List.singleton_append]
      by_cases hne : front = []
      · subst hne
        rw [List.nil_append, List.nil_append, Spelling.read_slash, Spelling.read_slash, hsteps]
        simp [Spelling.components, Lead.components, Piece.component?]
      · rw [hbehind front hne, Spelling.components_read_append hne]
        simp [Piece.component?]
  · next hend =>
    have hne : p.text.toList ≠ [] := fun h => hend (by simp [isEmpty, String.toList_eq_nil_iff.1 h])
    have := hbehind p.text.toList hne
    simpa [ofText, ← p.components_eq] using this

/-- **A file in a directory** has the steps of the directory and its name. -/
theorem components_join_name {p q : Path} {c : Component} (hq : '/' ∉ q.text.toList)
    (hc : Piece.component? q.text.toList = some c) : (p.join q).components = p.components ++ [c] := by
  have halone : q.components = [c] := by
    rw [q.components_eq, Spelling.read_of_head_ne (fun h => hq (List.mem_of_head? h)), List.splitOn_eq_singleton hq]
    split
    · next heq => rw [(List.cons.inj heq).1] at hc; exact absurd hc (by simp [Piece.component?])
    · simp [Spelling.components, Lead.components, hc]
  rw [components_join (by simpa [halone] using .of_piece hq hc), halone]

end Path

end RootFold
