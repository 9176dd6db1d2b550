/-!
# `RootFold.Path.Component` — the steps of a path and their order

A path is a sequence of steps. Besides ordinary names there are three that have a meaning of their own: the
root of an absolute path, a leading `.`, and `..`, which is kept as it stands and never resolved.

## Contents
- **Steps.** `Component`, with its written form `Component.text`.
- **Order.** Root, then `.`, then `..`, then names; names among themselves by the bytes of their encoding.
  `Component.lt_trans`, `Component.lt_irrefl` and `Component.lt_or_eq_or_gt` make it a strict linear order.
-/

namespace RootFold

/-- **A step of a path.** -/
inductive Component where
  /-- The root of an absolute path. -/
  | root
  /-- A leading `.`. -/
  | here
  /-- The parent directory `..`, kept unresolved. -/
  | up
  /-- An ordinary name. -/
  | name (text : String)
  deriving DecidableEq, Repr, Inhabited

namespace Component

/-- How a step is written. -/
def text : Component → String
  | root => "/"
  | here => "."
  | up => ".."
  | name s => s

/-! ## Order -/

/-- The place of a kind of step among the kinds. -/
def rank : Component → Nat
  | root => 0
  | here => 1
  | up => 2
  | name _ => 3

/-- **Steps are ordered** by their kind first; two names by their text. Texts are compared by code point,
    which is the order of their UTF-8 bytes. -/
protected def lt (a b : Component) : Prop :=
  a.rank < b.rank ∨ (a.rank = b.rank ∧ a.text < b.text)

instance : LT Component := ⟨Component.lt⟩

instance (a b : Component) : Decidable (a < b) :=
  inferInstanceAs (Decidable (a.rank < b.rank ∨ (a.rank = b.rank ∧ a.text < b.text)))

theorem lt_def {a b : Component} :
    a < b ↔ a.rank < b.rank ∨ (a.rank = b.rank ∧ a.text < b.text) := Iff.rfl

/-- Kind and text together determine the step. -/
theorem eq_of_rank_eq_of_text_eq {a b : Component} (hr : a.rank = b.rank) (ht : a.text = b.text) : a = b := by
  cases a <;> cases b <;> simp_all [rank, text]

theorem lt_irrefl (a : Component) : ¬ a < a := by
  rw [lt_def]
  rintro (h | ⟨_, h⟩)
  · exact Nat.lt_irrefl _ h
  · exact String.lt_irrefl _ h

theorem lt_trans {a b c : Component} (hab : a < b) (hbc : b < c) : a < c := by
  rw [lt_def] at *
  rcases hab with hab | ⟨hab, htab⟩ <;> rcases hbc with hbc | ⟨hbc, htbc⟩
  · exact .inl (Nat.lt_trans hab hbc)
  · exact .inl (hbc ▸ hab)
  · exact .inl (hab ▸ hbc)
  · exact .inr ⟨hab.trans hbc, String.lt_trans htab htbc⟩

theorem lt_or_eq_or_gt (a b : Component) : a < b ∨ a = b ∨ b < a := by
  simp only [lt_def]
  rcases Nat.lt_trichotomy a.rank b.rank with h | h | h
  · exact .inl (.inl h)
  · by_cases hab : a.text < b.text
    · exact .inl (.inr ⟨h, hab⟩)
    · by_cases hba : b.text < a.text
      · exact .inr (.inr (.inr ⟨h.symm, hba⟩))
      · exact .inr (.inl (eq_of_rank_eq_of_text_eq h (String.le_antisymm hba hab)))
  · exact .inr (.inr (.inl h))

instance : Trans (· < · : Component → Component → Prop) (· < ·) (· < ·) := ⟨lt_trans⟩

instance : Std.Irrefl (· < · : Component → Component → Prop) := ⟨lt_irrefl⟩

end Component

end RootFold
