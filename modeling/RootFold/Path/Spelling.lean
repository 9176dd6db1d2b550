import RootFold.Path.Component

/-!
# `RootFold.Path.Spelling` — the raw text of a path, cut at its slashes

The text of a path may repeat slashes, end in one, or carry `.` pieces that mean nothing. A `Spelling` is that
text cut into its lead (what makes it absolute, or the leading `.`) and its body, the pieces between slashes.
Nothing is lost by cutting (`write_read`); the steps are the pieces that are not idle (`Spelling.components`).

## Contents
- **Pieces.** `Piece.component?` says which step a piece stands for, if any.
- **Cutting.** `Spelling.read`, `Spelling.write`, `Spelling.write_read`.
- **Steps.** `Spelling.components`; a tidy spelling keeps its steps when written and read again
  (`components_read_write`). `Spelling.ofComponents` spells given steps.
- **Parent.** `Spelling.parent?` drops the last step and the idle pieces around it, and keeps the rest as it
  was spelled (`components_parent?`).
- **Tail.** `Spelling.dropSteps` is what is left of the text after its first steps.
-/

namespace RootFold

/-- What stands between two slashes. -/
abbrev Piece := List Char

/-- **The step a piece stands for.** An empty piece and `.` are idle: they stand for none. -/
def Piece.component? : Piece → Option Component
  | [] => none
  | ['.'] => none
  | ['.', '.'] => some .up
  | cs => some (.name (String.ofList cs))

/-- Whether a piece stands for no step. -/
def Piece.isIdle (piece : Piece) : Bool := (Piece.component? piece).isNone

/-- What a text begins with, before its pieces. -/
inductive Lead where
  /-- A slash: the path is absolute. -/
  | root
  /-- A first piece `.`. -/
  | here
  /-- Neither. -/
  | plain
  deriving DecidableEq, Repr, Inhabited

/-- The steps that a lead contributes. -/
def Lead.components : Lead → List Component
  | .root => [.root]
  | .here => [.here]
  | .plain => []

/-- **A path text cut at its slashes.** -/
structure Spelling where
  lead : Lead
  body : List Piece
  deriving Repr, Inhabited

namespace Spelling

/-! ## Cutting and writing -/

/-- Cut a text at its slashes. -/
def read : List Char → Spelling
  | '/' :: rest => ⟨.root, rest.splitOn '/'⟩
  | text =>
    match text.splitOn '/' with
    | ['.'] :: rest => ⟨.here, rest⟩
    | pieces => ⟨.plain, pieces⟩

/-- Put the pieces back together. -/
def write : Spelling → List Char
  | ⟨.root, body⟩ => '/' :: ['/'].intercalate body
  | ⟨.here, body⟩ => ['/'].intercalate (['.'] :: body)
  | ⟨.plain, body⟩ => ['/'].intercalate body

theorem read_slash (rest : List Char) : read ('/' :: rest) = ⟨.root, rest.splitOn '/'⟩ := by
  simp [read]

theorem read_of_head_ne {text : List Char} (h : text.head? ≠ some '/') :
    read text = match text.splitOn '/' with
      | ['.'] :: rest => ⟨.here, rest⟩
      | pieces => ⟨.plain, pieces⟩ := by
  unfold read
  split
  · simp at h
  · rfl

/-- **Nothing is lost by cutting.** -/
theorem write_read (text : List Char) : (read text).write = text := by
  by_cases h : text.head? = some '/'
  · obtain ⟨c, rest, rfl⟩ : ∃ c rest, text = c :: rest := by
      cases text with
      | nil => simp at h
      | cons c rest => exact ⟨c, rest, rfl⟩
    obtain rfl : c = '/' := by simpa using h
    rw [read_slash, write, List.intercalate_splitOn]
  · rw [read_of_head_ne h]
    split
    · next rest hs => rw [write, ← hs, List.intercalate_splitOn]
    · rw [write, List.intercalate_splitOn]

/-! ## Steps -/

/-- **The steps of a text:** those of its lead, then those of the pieces that are not idle. -/
def components (s : Spelling) : List Component := s.lead.components ++ s.body.filterMap Piece.component?

/-- **A tidy spelling** has no slash inside a piece, and a plain one does not look like one with a lead. -/
structure Tidy (s : Spelling) : Prop where
  no_slash : ∀ piece ∈ s.body, '/' ∉ piece
  plain_head : s.lead = .plain → ∀ piece rest, s.body = piece :: rest →
    piece ≠ ['.'] ∧ (piece = [] → rest = [])

private theorem no_slash_of_mem_splitOn {text piece : List Char} (h : piece ∈ text.splitOn '/') : '/' ∉ piece := by
  suffices ∀ (text acc : List Char), '/' ∉ acc →
      ∀ piece ∈ List.splitOnPPrepend (· == '/') text acc, '/' ∉ piece by
    exact this text [] (by simp) piece h
  intro text
  induction text with
  | nil => intro acc hacc piece hp; simp [List.splitOnPPrepend] at hp; simpa [hp] using hacc
  | cons c cs ih =>
    intro acc hacc piece hp
    by_cases hc : c = '/'
    · subst hc
      simp [List.splitOnPPrepend] at hp
      rcases hp with rfl | hp
      · simpa using hacc
      · exact ih [] (by simp) piece hp
    · simp [List.splitOnPPrepend, hc] at hp
      exact ih (c :: acc) (by simp [hacc, Ne.symm hc]) piece hp

/-- Cutting gives tidy spellings. -/
theorem tidy_read (text : List Char) : (read text).Tidy := by
  by_cases h : text.head? = some '/'
  · obtain ⟨c, rest, rfl⟩ : ∃ c rest, text = c :: rest := by
      cases text with
      | nil => simp at h
      | cons c rest => exact ⟨c, rest, rfl⟩
    obtain rfl : c = '/' := by simpa using h
    rw [read_slash]
    exact ⟨fun piece hp => no_slash_of_mem_splitOn hp, fun hl => by simp at hl⟩
  · rw [read_of_head_ne h]
    split
    · next rest hs =>
      exact ⟨fun piece hp => no_slash_of_mem_splitOn (hs ▸ List.mem_cons_of_mem _ hp), fun hl => by simp at hl⟩
    · next pieces hne =>
      refine ⟨fun piece hp => no_slash_of_mem_splitOn hp, fun _ piece rest hb => ⟨?_, ?_⟩⟩
      · rintro rfl
        exact hne rest hb
      · rintro rfl
        have hb' : text.splitOn '/' = [] :: rest := hb
        by_cases hr : rest = []
        · exact hr
        · have ht : text = ['/'].intercalate ([] :: rest) := by
            rw [← hb', List.intercalate_splitOn]
          obtain ⟨r, rs, rfl⟩ : ∃ r rs, rest = r :: rs := by
            cases rest with
            | nil => exact absurd rfl hr
            | cons r rs => exact ⟨r, rs, rfl⟩
          exact absurd (by simp [ht, List.intercalate, List.intersperse]) h

/-- **A tidy spelling keeps its steps** when it is written and cut again. -/
theorem components_read_write {s : Spelling} (hs : s.Tidy) : (read s.write).components = s.components := by
  obtain ⟨lead, body⟩ := s
  obtain ⟨hslash, hhead⟩ := hs
  cases lead with
  | root =>
    rw [write, read_slash]
    by_cases hb : body = []
    · subst hb
      simp [components, List.intercalate, List.splitOn, List.splitOnP, List.splitOnPPrepend, Piece.component?]
    · rw [List.splitOn_intercalate '/' hslash hb]
  | here =>
    have hcut : (['/'].intercalate (['.'] :: body)).splitOn '/' = ['.'] :: body :=
      List.splitOn_intercalate '/' (by simpa using hslash) (by simp)
    have hdot : (['/'].intercalate (['.'] :: body)).head? ≠ some '/' := by
      cases body <;> simp [List.intercalate, List.intersperse]
    rw [write, read_of_head_ne hdot, hcut]
    rfl
  | plain =>
    rw [write]
    cases body with
    | nil =>
      simp [components, read, List.intercalate, List.splitOn, List.splitOnP, List.splitOnPPrepend,
        Piece.component?]
    | cons piece rest =>
      obtain ⟨hdot, hempty⟩ := hhead rfl piece rest rfl
      have hcut : (['/'].intercalate (piece :: rest)).splitOn '/' = piece :: rest :=
        List.splitOn_intercalate '/' hslash (by simp)
      have hslash' : (['/'].intercalate (piece :: rest)).head? ≠ some '/' := by
        cases piece with
        | nil => simp [hempty rfl, List.intercalate]
        | cons c cs =>
          have : '/' ∉ c :: cs := hslash _ (by simp)
          have hc : c ≠ '/' := fun h => this (by simp [h])
          cases rest <;> simpa [List.intercalate, List.intersperse] using hc
      rw [read_of_head_ne hslash', hcut]
      split
      · next rest' heq => exact absurd (List.cons.inj heq).1 hdot
      · rfl

/-- **The plain spelling of a list of steps:** no idle pieces. -/
def ofComponents : List Component → Spelling
  | .root :: rest => ⟨.root, rest.map (·.text.toList)⟩
  | .here :: rest => ⟨.here, rest.map (·.text.toList)⟩
  | steps => ⟨.plain, steps.map (·.text.toList)⟩

/-! ## Parent -/

/-- The pieces up to the last one that is not idle. -/
def trimEnd (body : List Piece) : List Piece := (body.reverse.dropWhile Piece.isIdle).reverse

/-- The pieces before the last one that is not idle, if there is one. -/
def dropLastStep? (body : List Piece) : Option (List Piece) :=
  match body.reverse.dropWhile Piece.isIdle with
  | [] => none
  | _ :: before => some before.reverse

/-- **The spelling of the parent:** the last step and the idle pieces around it are dropped. A text whose only
    step is its leading `.` has the empty text as its parent; a text that is only a root has none. -/
def parent? (s : Spelling) : Option Spelling :=
  match dropLastStep? s.body with
  | some before => some ⟨s.lead, trimEnd before⟩
  | none => if s.lead = .here then some ⟨.plain, []⟩ else none

theorem filterMap_reverse_dropWhile_isIdle (pieces : List Piece) :
    (pieces.dropWhile Piece.isIdle).reverse.filterMap Piece.component? =
      pieces.reverse.filterMap Piece.component? := by
  induction pieces with
  | nil => rfl
  | cons piece rest ih =>
    by_cases h : Piece.isIdle piece = true
    · have hn : Piece.component? piece = none := by simpa [Piece.isIdle] using h
      simp [h, ih, hn]
    · simp [h]

theorem filterMap_trimEnd (body : List Piece) :
    (trimEnd body).filterMap Piece.component? = body.filterMap Piece.component? := by
  have h := filterMap_reverse_dropWhile_isIdle body.reverse
  rwa [List.reverse_reverse] at h

theorem filterMap_of_dropLastStep?_eq_some {body before : List Piece} (h : dropLastStep? body = some before) :
    ∃ c, body.filterMap Piece.component? = before.filterMap Piece.component? ++ [c] := by
  have hkeep := filterMap_reverse_dropWhile_isIdle body.reverse
  rw [List.reverse_reverse] at hkeep
  unfold dropLastStep? at h
  split at h
  · simp at h
  · next last before' hd =>
    obtain rfl : before'.reverse = before := by simpa using h
    have hlast : Piece.isIdle last = false := by
      have := List.head?_dropWhile_not Piece.isIdle body.reverse
      simpa [hd] using this
    obtain ⟨c, hc⟩ : ∃ c, Piece.component? last = some c := by
      cases hcomp : Piece.component? last with
      | none => simp [Piece.isIdle, hcomp] at hlast
      | some c => exact ⟨c, rfl⟩
    exact ⟨c, by rw [← hkeep, hd]; simp [hc]⟩

theorem filterMap_of_dropLastStep?_eq_none {body : List Piece} (h : dropLastStep? body = none) :
    body.filterMap Piece.component? = [] := by
  have hkeep := filterMap_reverse_dropWhile_isIdle body.reverse
  rw [List.reverse_reverse] at hkeep
  unfold dropLastStep? at h
  split at h
  · next hd => rw [← hkeep, hd]; rfl
  · simp at h

/-- **The parent has all steps but the last.** -/
theorem components_parent? {s q : Spelling} (h : s.parent? = some q) : q.components = s.components.dropLast := by
  unfold parent? at h
  split at h
  · next before hb =>
    obtain rfl := Option.some.inj h
    obtain ⟨c, hc⟩ := filterMap_of_dropLastStep?_eq_some hb
    rw [components, components, filterMap_trimEnd, hc, ← List.append_assoc, List.dropLast_concat]
  · next hb =>
    split at h
    · next hl =>
      obtain rfl := Option.some.inj h
      simp [components, filterMap_of_dropLastStep?_eq_none hb, hl, Lead.components]
    · simp at h

/-- Only the empty text and a bare root have no parent. -/
theorem components_of_parent?_eq_none {s : Spelling} (h : s.parent? = none) :
    s.components = [] ∨ s.components = [.root] := by
  unfold parent? at h
  split at h
  · simp at h
  · next hb =>
    have hc : s.components = s.lead.components := by
      rw [components, filterMap_of_dropLastStep?_eq_none hb, List.append_nil]
    rw [hc]
    cases hl : s.lead with
    | root => exact .inr rfl
    | here => simp [hl] at h
    | plain => exact .inl rfl

/-- A spelling with a parent has a step to drop. -/
theorem components_ne_nil_of_parent? {s q : Spelling} (h : s.parent? = some q) : s.components ≠ [] := by
  unfold parent? at h
  split at h
  · next before hb =>
    obtain ⟨c, hc⟩ := filterMap_of_dropLastStep?_eq_some hb
    rw [components, hc]
    simp
  · split at h
    · next hl => simp [components, hl, Lead.components]
    · simp at h

private theorem trimEnd_isPrefix (body : List Piece) : trimEnd body <+: body := by
  unfold trimEnd
  rw [← List.reverse_suffix, List.reverse_reverse]
  exact List.dropWhile_suffix _

private theorem isPrefix_of_dropLastStep? {body before : List Piece} (h : dropLastStep? body = some before) :
    before <+: body := by
  unfold dropLastStep? at h
  split at h
  · simp at h
  · next last before' hd =>
    obtain rfl : before'.reverse = before := by simpa using h
    rw [← List.reverse_suffix, List.reverse_reverse]
    exact (List.suffix_cons last before').trans (hd ▸ List.dropWhile_suffix _)

/-- The parent of a tidy spelling is tidy. -/
theorem Tidy.parent? {s q : Spelling} (hs : s.Tidy) (h : s.parent? = some q) : q.Tidy := by
  unfold Spelling.parent? at h
  split at h
  · next before hb =>
    obtain rfl := Option.some.inj h
    have hpre : trimEnd before <+: s.body := (trimEnd_isPrefix before).trans (isPrefix_of_dropLastStep? hb)
    refine ⟨fun piece hp => hs.no_slash piece (hpre.mem hp), fun hplain piece rest hbody => ?_⟩
    obtain ⟨tail, htail⟩ := hpre
    simp only at hplain hbody
    rw [hbody] at htail
    obtain ⟨hdot, hempty⟩ := hs.plain_head hplain piece (rest ++ tail) (by simpa using htail.symm)
    exact ⟨hdot, fun he => (List.append_eq_nil_iff.1 (hempty he)).1⟩
  · split at h
    · obtain rfl := Option.some.inj h
      exact ⟨by simp, by simp⟩
    · simp at h

/-! ## Tail -/

/-- The pieces after the first `n` that are not idle, without the idle pieces in front. -/
def dropPieces : Nat → List Piece → List Piece
  | 0, pieces => pieces.dropWhile Piece.isIdle
  | n + 1, pieces => dropPieces n ((pieces.dropWhile Piece.isIdle).drop 1)

/-- **What is left of the text after its first `n` steps.** -/
def dropSteps (s : Spelling) (n : Nat) : Spelling :=
  if n = 0 then s else ⟨.plain, dropPieces (n - s.lead.components.length) s.body⟩

end Spelling

end RootFold
