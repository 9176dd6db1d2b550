import RootFold.Path.Spelling

/-!
# `RootFold.Path.Basic` — paths by their text, compared by their steps

A `Path` keeps the text it was given, and every answer that is a path is written back as it was spelled. All
that is decided about paths is decided on one view of them, the list of steps `Path.components`: `p == q` says
that the steps agree, and `p < q` is the order of the steps, so a path that begins another comes before it.

## Contents
- **View and order.** `Path.ofText`, `Path.components`, `==`, `<` with `Path.lt_trans`, `Path.lt_irrefl`.
- **Parent.** `Path.parent?` on the text; `components_of_parent?`.
- **Building.** `Path.join`, `Path.ofComponents`.
- **Parts.** `Path.fileName?`, `Path.extension?`, `Path.startsWith`, `Path.stripPrefix?`.
-/

namespace RootFold

/-- **A path,** as it was spelled. The steps follow from the text; they are kept beside it, since every comparison
    asks for them. -/
structure Path where
  text : String
  /-- The steps: the one view on which paths are compared. -/
  components : List Component
  components_eq : components = (Spelling.read text.toList).components

namespace Path

/-- **The path that a text spells.** -/
def ofText (text : String) : Path := ⟨text, _, rfl⟩

@[simp] theorem text_ofText (text : String) : (ofText text).text = text := rfl

/-- A path is determined by its text. -/
@[ext] theorem ext_text {p q : Path} (h : p.text = q.text) : p = q := by
  obtain ⟨text, _, rfl⟩ := p
  obtain ⟨_, _, rfl⟩ := q
  obtain rfl : text = _ := h
  rfl

@[simp] theorem ofText_text (p : Path) : ofText p.text = p := ext_text rfl

instance : ToString Path := ⟨Path.text⟩

instance : Repr Path := ⟨fun p n => reprPrec p.text n⟩

/-- The path with no text and no steps. -/
def empty : Path := ofText ""

instance : Inhabited Path := ⟨empty⟩

/-- Whether there is no text at all. -/
def isEmpty (p : Path) : Bool := p.text.isEmpty

/-- The text cut at its slashes. -/
def spelling (p : Path) : Spelling := Spelling.read p.text.toList

theorem components_spelling (p : Path) : p.spelling.components = p.components := p.components_eq.symm

/-- The path spelled in a given way. -/
def ofSpelling (s : Spelling) : Path := ofText (String.ofList s.write)

theorem components_ofSpelling {s : Spelling} (hs : s.Tidy) : (ofSpelling s).components = s.components := by
  simp [ofSpelling, ofText, Spelling.components_read_write hs]

/-! ## Equality and order by steps -/

/-- Two paths are the same place when their steps agree, however they are spelled. Their numbers are compared
    first, since that is cheap and mostly settles it. -/
instance : BEq Path :=
  ⟨fun p q => p.components.length == q.components.length && p.components == q.components⟩

theorem beq_iff {p q : Path} : (p == q) = true ↔ p.components = q.components := by
  show (p.components.length == q.components.length && p.components == q.components) = true ↔ _
  rw [Bool.and_eq_true, beq_iff_eq, beq_iff_eq]
  exact ⟨And.right, fun h => ⟨congrArg List.length h, h⟩⟩

instance : EquivBEq Path where
  rfl := beq_iff.2 rfl
  symm h := beq_iff.2 (beq_iff.1 h).symm
  trans h₁ h₂ := beq_iff.2 ((beq_iff.1 h₁).trans (beq_iff.1 h₂))

/-- Paths are ordered step by step. -/
instance : LT Path := ⟨fun p q => p.components < q.components⟩

instance (p q : Path) : Decidable (p < q) := inferInstanceAs (Decidable (p.components < q.components))

theorem lt_def {p q : Path} : p < q ↔ p.components < q.components := Iff.rfl

theorem lt_irrefl (p : Path) : ¬ p < p := List.lt_irrefl p.components

theorem lt_trans {p q r : Path} (hpq : p < q) (hqr : q < r) : p < r :=
  @List.lt_trans _ _ _ p.components q.components r.components hpq hqr

private theorem list_lt_or_eq_or_gt : ∀ a b : List Component, a < b ∨ a = b ∨ b < a
  | [], [] => .inr (.inl rfl)
  | [], _ :: _ => .inl .nil
  | _ :: _, [] => .inr (.inr .nil)
  | x :: xs, y :: ys => by
    rcases Component.lt_or_eq_or_gt x y with h | rfl | h
    · exact .inl (.rel h)
    · rcases list_lt_or_eq_or_gt xs ys with h | rfl | h
      · exact .inl (.cons h)
      · exact .inr (.inl rfl)
      · exact .inr (.inr (.cons h))
    · exact .inr (.inr (.rel h))

/-- The order is total up to spelling. -/
theorem lt_or_beq_or_gt (p q : Path) : p < q ∨ (p == q) = true ∨ q < p := by
  rw [beq_iff]
  exact list_lt_or_eq_or_gt p.components q.components

theorem lt_of_lt_of_beq {p q r : Path} (h : p < q) (he : (q == r) = true) : p < r := by
  rw [lt_def, ← beq_iff.1 he]; exact h

theorem lt_of_beq_of_lt {p q r : Path} (he : (p == q) = true) (h : q < r) : p < r := by
  rw [lt_def, beq_iff.1 he]; exact h

theorem not_beq_of_lt {p q : Path} (h : p < q) : ¬ (p == q) = true := fun he =>
  lt_irrefl q (lt_of_beq_of_lt (BEq.symm he) h)

instance : Trans (· < · : Path → Path → Prop) (· < ·) (· < ·) := ⟨lt_trans⟩

/-- Not after: the test by which lists of paths are sorted. -/
def le (p q : Path) : Bool := !decide (q < p)

theorem le_iff {p q : Path} : p.le q = true ↔ p < q ∨ (p == q) = true := by
  simp only [le, Bool.not_eq_true', decide_eq_false_iff_not]
  constructor
  · intro h
    rcases lt_or_beq_or_gt p q with hlt | heq | hgt
    · exact .inl hlt
    · exact .inr heq
    · exact absurd hgt h
  · rintro (h | h) hqp
    · exact lt_irrefl p (lt_trans h hqp)
    · exact lt_irrefl p (lt_of_beq_of_lt h hqp)

theorem le_trans {p q r : Path} (hpq : p.le q = true) (hqr : q.le r = true) : p.le r = true := by
  rw [le_iff] at *
  rcases hpq with hpq | hpq <;> rcases hqr with hqr | hqr
  · exact .inl (lt_trans hpq hqr)
  · exact .inl (lt_of_lt_of_beq hpq hqr)
  · exact .inl (lt_of_beq_of_lt hpq hqr)
  · exact .inr (BEq.trans hpq hqr)

theorem le_total (p q : Path) : (p.le q || q.le p) = true := by
  rw [Bool.or_eq_true, le_iff, le_iff]
  rcases lt_or_beq_or_gt p q with h | h | h
  · exact .inl (.inl h)
  · exact .inl (.inr h)
  · exact .inr (.inl h)

/-! ## Parent -/

/-- **The path without its last step,** otherwise as it was spelled. The empty path and a bare root have none. -/
def parent? (p : Path) : Option Path := p.spelling.parent?.map ofSpelling

theorem components_of_parent? {p q : Path} (h : p.parent? = some q) :
    q.components = p.components.dropLast := by
  obtain ⟨s, hs, rfl⟩ := Option.map_eq_some_iff.1 h
  rw [components_ofSpelling ((Spelling.tidy_read _).parent? hs), Spelling.components_parent? hs,
    components_spelling]

theorem components_ne_nil_of_parent? {p q : Path} (h : p.parent? = some q) : p.components ≠ [] := by
  obtain ⟨s, hs, rfl⟩ := Option.map_eq_some_iff.1 h
  exact components_spelling p ▸ Spelling.components_ne_nil_of_parent? hs

theorem length_components_of_parent? {p q : Path} (h : p.parent? = some q) :
    q.components.length < p.components.length := by
  rw [components_of_parent? h, List.length_dropLast]
  have := List.length_pos_iff.2 (components_ne_nil_of_parent? h)
  omega

/-! ## Building -/

/-- Whether the text begins with a slash. -/
def isAbsolute (p : Path) : Bool := p.text.toList.head? == some '/'

/-- **One path below another.** An absolute right side stands for itself; otherwise a slash goes between,
    unless the left side is empty or already ends in one. -/
def join (p q : Path) : Path :=
  if q.isAbsolute then q
  else if p.isEmpty || p.text.toList.getLast? == some '/' then ofText (p.text ++ q.text)
  else ofText (p.text ++ "/" ++ q.text)

/-- The plain spelling of a list of steps. -/
def ofComponents (steps : List Component) : Path := ofSpelling (.ofComponents steps)

/-! ## Parts -/

/-- The last step, if it is an ordinary name. -/
def fileName? (p : Path) : Option String :=
  match p.components.getLast? with
  | some (.name s) => some s
  | _ => none

/-- What follows the last dot of the file name, unless that dot comes first. -/
def extension? (p : Path) : Option String := do
  let name ← p.fileName?
  match name.toList.reverse.span (· != '.') with
  | (_, []) => none
  | (_, ['.']) => none
  | (after, _) => some (String.ofList after.reverse)

/-- Whether all steps of `q` begin `p`. -/
def startsWith (p q : Path) : Bool := q.components.isPrefixOf p.components

/-- **What is left of `p` below `q`:** the text after the steps of `q`, if these begin `p`. -/
def stripPrefix? (p q : Path) : Option Path :=
  if p.startsWith q then some (ofSpelling (p.spelling.dropSteps q.components.length)) else none

end Path

end RootFold
