import RootFold.Path.Map
import Mathlib.Data.List.Pairwise
import Mathlib.Data.List.Sort

/-!
# `RootFold.Proofs.Path.Map` — maps and sets by what they answer

Everything that is said about a map later is said through `find?`, or through `row?` where the spelling of the
keys counts, and about a set through `contains`; the lists behind them matter only for the order in which keys and
elements are listed. One equation for each operation says what it does to the answers.

## Contents
- **Lists.** What is at different places, `eq_of_distinct`; what is in strict path order, `eq_of_sorted_of_mem_iff`,
  and paths up to spelling, `forall₂_beq_of_sorted`; what is found at a place, `find?_place_congr`,
  `isSome_find?_place`.
- **Maps.** `row?_upsert`, `row?_erase`, `row?_foldl_erase`, and what follows for `find?`: `find?_upsert` with its
  cases `find?_insert`, `find?_insertNew`; `find?_erase`, `find?_foldl_erase`.
- **Entries.** `row?_eq_some_iff`, `ext_row`, `find?_eq_some_iff`, `mem_values_iff`, `contains_iff_keys`,
  `eq_of_mem_keys`, `keys_sorted`.
- **Sets.** `contains_insert`, `contains_union`; spellings, `mem_toList_union` and `eq_of_mem_toList`; equality,
  `beq_iff` and `union_self`; lists of elements, `ext_toList` and `ofList_toList`; and the first element,
  `contains_of_head?` and `not_lt_of_head?`.
-/

namespace RootFold

variable {α : Type}

/-! ## Lists -/

section Lists

variable {place : α → Path} {l l' : List α} {a b : α}

/-- **Of things at different places** one is at each place. -/
theorem eq_of_distinct (h : l.Pairwise fun a b => ¬ (place a == place b) = true) (ha : a ∈ l) (hb : b ∈ l)
    (he : (place a == place b) = true) : a = b := by
  have : Std.Symm fun a b : α => ¬ (place a == place b) = true := ⟨fun _ _ hab hba => hab (BEq.symm hba)⟩
  by_contra hne
  exact h.forall ha hb hne he

/-- **Lists in strict path order** with the same elements are the same. -/
theorem eq_of_sorted_of_mem_iff (h : l.Pairwise fun a b => place a < place b)
    (h' : l'.Pairwise fun a b => place a < place b) (hmem : ∀ a, a ∈ l ↔ a ∈ l') : l = l' := by
  have : Std.Irrefl fun a b : α => place a < place b := ⟨fun a => Path.lt_irrefl (place a)⟩
  have : Std.Antisymm fun a b : α => place a < place b :=
    ⟨fun _ _ hab hba => absurd (Path.lt_trans hab hba) (Path.lt_irrefl _)⟩
  exact h.eq_of_mem_iff h' hmem

/-- Paths in strict order that are the same up to spelling are so one by one. -/
theorem forall₂_beq_of_sorted {cs cs' : List Path} (h : cs.Pairwise (· < ·)) (h' : cs'.Pairwise (· < ·))
    (hmem : ∀ steps, (∃ c ∈ cs, c.components = steps) ↔ ∃ c ∈ cs', c.components = steps) :
    List.Forall₂ (fun c c' : Path => (c == c') = true) cs cs' := by
  have : Std.Irrefl fun a b : List Component => a < b := ⟨List.lt_irrefl⟩
  have : Std.Antisymm fun a b : List Component => a < b :=
    ⟨fun _ _ hab hba => absurd (List.lt_trans hab hba) (List.lt_irrefl _)⟩
  have hsorted : ∀ l : List Path, l.Pairwise (· < ·) → (l.map (·.components)).Pairwise fun a b => a < b :=
    fun l hl => List.pairwise_map.2 hl
  have hsteps : cs.map (·.components) = cs'.map (·.components) := by
    refine (hsorted cs h).eq_of_mem_iff (hsorted cs' h') fun steps => ?_
    simpa only [List.mem_map] using hmem steps
  rw [← List.forall₂_eq_eq_eq, List.forall₂_map_left_iff, List.forall₂_map_right_iff] at hsteps
  exact hsteps.imp fun _ _ he => Path.beq_iff.2 he

/-- Lists of paths are equal when they are the same up to spelling, one by one. -/
theorem list_beq_iff_forall₂ {cs cs' : List Path} :
    (cs == cs') = true ↔ List.Forall₂ (fun c c' : Path => (c == c') = true) cs cs' := by
  induction cs generalizing cs' with
  | nil => cases cs' <;> simp
  | cons c rest ih =>
    cases cs' with
    | nil => simp
    | cons c' rest' => rw [List.cons_beq_cons, Bool.and_eq_true, ih, List.forall₂_cons]

variable {p q : Path}

/-- Two spellings of a place find the same. -/
theorem find?_place_congr (place : α → Path) (h : (p == q) = true) (l : List α) :
    l.find? (place · == p) = l.find? (place · == q) := by
  have hfun : (fun a => place a == p) = fun a => place a == q := by
    funext a
    exact BEq.congr_right h
  rw [hfun]

/-- Something is found at a place if that place is listed. -/
theorem isSome_find?_place (place : α → Path) (l : List α) (p : Path) :
    (l.find? (place · == p)).isSome = (l.map place).contains p := by
  rw [Bool.eq_iff_iff, List.find?_isSome, List.contains_iff_exists_mem_beq]
  simp only [List.mem_map, exists_exists_and_eq_and, BEq.comm (a := p)]

end Lists

namespace PathMap

variable {m : PathMap α} {p q : Path} {v w : α}

/-- **The row at a path:** its value, with the key as it is spelled. -/
def row? (m : PathMap α) (p : Path) : Option (Path × α) := m.entries.find? (·.1 == p)

@[simp] theorem find?_empty : (empty : PathMap α).find? q = none := rfl

theorem find?_eq_map_row? : m.find? p = (m.row? p).map (·.2) := rfl

/-- Two spellings of a path have the same row. -/
theorem row?_congr (h : (p == q) = true) : m.row? p = m.row? q := find?_place_congr Prod.fst h m.entries

theorem find?_congr (h : (p == q) = true) : m.find? p = m.find? q := by
  rw [find?_eq_map_row?, find?_eq_map_row?, row?_congr h]

theorem contains_congr (h : (p == q) = true) : m.contains p = m.contains q := by
  rw [contains, contains, find?_congr h]

/-! ## Maps -/

private theorem find?_eq_none_of_lt {l : List (Path × α)} (h : ∀ e ∈ l, p < e.1) :
    l.find? (·.1 == p) = none := by
  rw [List.find?_eq_none]
  intro e he heq
  exact Path.not_beq_of_lt (h e he) (BEq.symm heq)

private theorem row?_upsertEntry (f : Option α → α) {l : List (Path × α)}
    (h : l.Pairwise fun a b => a.1 < b.1) :
    (upsertEntry p f l).find? (·.1 == q) =
      if q == p then
        some (((l.find? (·.1 == p)).map (·.1)).getD p, f ((l.find? (·.1 == p)).map (·.2)))
      else l.find? (·.1 == q) := by
  induction l with
  | nil => cases hpq : p == q <;> simp [upsertEntry, hpq, BEq.comm (a := q)]
  | cons e rest ih =>
    obtain ⟨k, v⟩ := e
    obtain ⟨hk, hrest⟩ := List.pairwise_cons.1 h
    unfold upsertEntry
    split
    · next hlt =>
      have hnone : ((k, v) :: rest).find? (·.1 == p) = none := by
        refine find?_eq_none_of_lt fun e he => ?_
        rcases List.mem_cons.1 he with rfl | he
        · exact hlt
        · exact Path.lt_trans hlt (hk e he)
      rw [hnone, List.find?_cons]
      cases hpq : p == q <;> simp [BEq.comm (a := q), hpq]
    · split
      · next hgt =>
        have hkp : (k == p) = false := by simpa using Path.not_beq_of_lt hgt
        cases hkq : k == q with
        | true =>
          have hqp : (q == p) = false := by rw [← hkp]; exact (BEq.congr_left hkq).symm
          simp [hkq, hqp]
        | false => simp only [List.find?_cons, hkq, hkp, ih hrest]
      · next hnlt hngt =>
        have hkp : (k == p) = true := by
          rcases Path.lt_or_beq_or_gt k p with hl | he | hl
          · exact absurd hl hngt
          · exact he
          · exact absurd hl hnlt
        cases hkq : k == q with
        | true =>
          have hqp : (q == p) = true := BEq.trans (BEq.symm hkq) hkp
          simp [hkq, hkp, hqp]
        | false =>
          have hqp : (q == p) = false := by
            rw [BEq.comm, ← hkq]
            exact (BEq.congr_left hkp).symm
          simp [hkq, hqp]

/-- **A changed value** is at its path, under the key that was there before, and all other rows stay. -/
theorem row?_upsert (f : Option α → α) :
    (m.upsert p f).row? q =
      if q == p then some (((m.row? p).map (·.1)).getD p, f (m.find? p)) else m.row? q :=
  row?_upsertEntry f m.sorted

/-- **A changed value** is found at its path, and all others are found as before. -/
theorem find?_upsert (f : Option α → α) :
    (m.upsert p f).find? q = if q == p then some (f (m.find? p)) else m.find? q := by
  rw [find?_eq_map_row?, row?_upsert]
  split <;> rfl

theorem find?_insert : (m.insert p v).find? q = if q == p then some v else m.find? q := find?_upsert _

theorem contains_insert : (m.insert p v).contains q = ((q == p) || m.contains q) := by
  unfold contains
  rw [find?_insert]
  cases q == p <;> rfl

theorem find?_insertNew : (m.insertNew p v).find? q = if q == p then some ((m.find? p).getD v) else m.find? q :=
  find?_upsert _

theorem row?_erase : (m.erase p).row? q = if q == p then none else m.row? q := by
  show (m.entries.filter (!·.1 == p)).find? (·.1 == q) = _
  rw [List.find?_filter]
  cases hqp : q == p with
  | true =>
    have hnone : m.entries.find? (fun e => !(e.1 == p) && (e.1 == q)) = none := by
      rw [List.find?_eq_none]
      intro e _ he
      rw [Bool.and_eq_true, Bool.not_eq_true'] at he
      rw [BEq.trans he.2 hqp] at he
      exact absurd he.1 (by simp)
    simp [hnone]
  | false =>
    have hfun : (fun e : Path × α => !(e.1 == p) && (e.1 == q)) = fun e => e.1 == q := by
      funext e
      cases heq : e.1 == q with
      | false => simp
      | true => simp [BEq.congr_left (c := p) heq, hqp]
    simp [hfun, row?]

theorem find?_erase : (m.erase p).find? q = if q == p then none else m.find? q := by
  rw [find?_eq_map_row?, row?_erase]
  split <;> rfl

/-- Several keys taken out, one after the other. -/
theorem row?_foldl_erase {β : Type} (key : β → Path) (l : List β) :
    (l.foldl (fun m b => m.erase (key b)) m).row? q = if l.any (q == key ·) then none else m.row? q := by
  induction l generalizing m with
  | nil => rfl
  | cons b rest ih =>
    rw [List.foldl_cons, ih, row?_erase, List.any_cons]
    cases q == key b <;> simp

theorem find?_foldl_erase {β : Type} (key : β → Path) (l : List β) :
    (l.foldl (fun m b => m.erase (key b)) m).find? q = if l.any (q == key ·) then none else m.find? q := by
  rw [find?_eq_map_row?, row?_foldl_erase]
  split <;> rfl

/-! ## Entries -/

private theorem find?_of_mem {l : List (Path × α)} (h : l.Pairwise fun a b => a.1 < b.1) {e : Path × α}
    (he : e ∈ l) : l.find? (·.1 == e.1) = some e := by
  induction l with
  | nil => exact absurd he (by simp)
  | cons a rest ih =>
    obtain ⟨ha, hrest⟩ := List.pairwise_cons.1 h
    rcases List.mem_cons.1 he with rfl | he
    · simp
    · have hne : (a.1 == e.1) = false := by simpa using Path.not_beq_of_lt (ha e he)
      rw [List.find?_cons, hne]
      exact ih hrest he

theorem row?_eq_some_iff {e : Path × α} : m.row? q = some e ↔ e ∈ m.entries ∧ (e.1 == q) = true := by
  constructor
  · intro h
    have hk := List.find?_some (p := fun e : Path × α => e.1 == q) h
    exact ⟨List.mem_of_find?_eq_some h, hk⟩
  · rintro ⟨hmem, hk⟩
    rw [← row?_congr hk]
    exact find?_of_mem m.sorted hmem

/-- **A map is determined by its rows.** -/
theorem ext_row {m m' : PathMap α} (h : ∀ q, m.row? q = m'.row? q) : m = m' := by
  have hmem : ∀ e, e ∈ m.entries ↔ e ∈ m'.entries := by
    intro e
    have hrow : ∀ m : PathMap α, e ∈ m.entries ↔ m.row? e.1 = some e := fun m =>
      ⟨fun he => row?_eq_some_iff.2 ⟨he, BEq.rfl⟩, fun he => (row?_eq_some_iff.1 he).1⟩
    rw [hrow, hrow, h]
  obtain ⟨entries, hsorted⟩ := m
  obtain ⟨entries', hsorted'⟩ := m'
  obtain rfl : entries = entries' := eq_of_sorted_of_mem_iff hsorted hsorted' hmem
  rfl

/-- **A value is found** exactly where an entry holds it. -/
theorem find?_eq_some_iff : m.find? q = some v ↔ ∃ k, (k, v) ∈ m.entries ∧ (k == q) = true := by
  simp only [find?_eq_map_row?, Option.map_eq_some_iff, row?_eq_some_iff, Prod.exists, exists_eq_right]

theorem mem_values_iff : v ∈ m.values ↔ ∃ q, m.find? q = some v := by
  constructor
  · intro h
    obtain ⟨⟨k, w⟩, hmem, rfl⟩ := List.mem_map.1 h
    exact ⟨k, find?_eq_some_iff.2 ⟨k, hmem, BEq.rfl⟩⟩
  · rintro ⟨q, hq⟩
    obtain ⟨k, hmem, -⟩ := find?_eq_some_iff.1 hq
    exact List.mem_map.2 ⟨(k, v), hmem, rfl⟩

theorem contains_iff : m.contains q = true ↔ ∃ v, m.find? q = some v := Option.isSome_iff_exists

theorem contains_iff_keys : m.contains q = true ↔ ∃ k ∈ m.keys, (k == q) = true := by
  rw [contains_iff]
  constructor
  · rintro ⟨v, hv⟩
    obtain ⟨k, hmem, hk⟩ := find?_eq_some_iff.1 hv
    exact ⟨k, List.mem_map.2 ⟨(k, v), hmem, rfl⟩, hk⟩
  · rintro ⟨k, hmem, hk⟩
    obtain ⟨⟨k, v⟩, he, rfl⟩ := List.mem_map.1 hmem
    exact ⟨v, find?_eq_some_iff.2 ⟨k, he, hk⟩⟩

/-- A key has one spelling. -/
theorem eq_of_mem_keys (hp : p ∈ m.keys) (hq : q ∈ m.keys) (h : (p == q) = true) : p = q := by
  obtain ⟨a, ha, rfl⟩ := List.mem_map.1 hp
  obtain ⟨b, hb, rfl⟩ := List.mem_map.1 hq
  have hfind := find?_of_mem m.sorted ha
  rw [find?_place_congr Prod.fst h, find?_of_mem m.sorted hb] at hfind
  rw [Option.some.inj hfind]

theorem keys_sorted (m : PathMap α) : m.keys.Pairwise (· < ·) := List.pairwise_map.2 m.sorted

end PathMap

/-! ## Sets -/

namespace PathSet

variable {s t : PathSet} {p q : Path}

@[simp] theorem contains_empty : empty.contains q = false := rfl

theorem contains_insert : (s.insert p).contains q = ((q == p) || s.contains q) := by
  show ((s.toMap.insertNew p ()).find? q).isSome = _
  rw [PathMap.find?_insertNew]
  cases hqp : q == p with
  | true => rfl
  | false => simp [contains, PathMap.contains]

theorem contains_iff_toList : s.contains q = true ↔ ∃ k ∈ s.toList, (k == q) = true := PathMap.contains_iff_keys

theorem contains_eq_any : s.contains q = s.toList.any (· == q) := by
  rw [Bool.eq_iff_iff, contains_iff_toList, List.any_eq_true]

theorem contains_foldl_insert (l : List Path) :
    (l.foldl insert s).contains q = (s.contains q || l.any (· == q)) := by
  induction l generalizing s with
  | nil => simp
  | cons p rest ih =>
    rw [List.foldl_cons, ih, contains_insert, List.any_cons, BEq.comm (a := q)]
    cases p == q <;> cases s.contains q <;> rfl

/-- **The union** holds what one of both holds. -/
theorem contains_union : (s.union t).contains q = (s.contains q || t.contains q) := by
  rw [union, contains_foldl_insert, contains_eq_any (s := t)]

/-- An element that is listed was inserted or listed before, under this spelling. -/
theorem mem_toList_insert (h : q ∈ (s.insert p).toList) : q = p ∨ q ∈ s.toList := by
  obtain ⟨e, he, rfl⟩ := List.mem_map.1 h
  rcases PathMap.mem_upsertEntry he with hp | ⟨b, hb, hq⟩
  · exact .inl hp
  · exact .inr (List.mem_map.2 ⟨b, hb, hq.symm⟩)

private theorem mem_toList_foldl_insert {l : List Path} (h : q ∈ (l.foldl insert s).toList) :
    q ∈ s.toList ∨ q ∈ l := by
  induction l generalizing s with
  | nil => exact .inl h
  | cons p rest ih =>
    rcases ih h with h | h
    · rcases mem_toList_insert h with rfl | h
      · exact .inr List.mem_cons_self
      · exact .inl h
    · exact .inr (List.mem_cons_of_mem _ h)

/-- **The union spells** its elements as one of both sets does. -/
theorem mem_toList_union (h : q ∈ (s.union t).toList) : q ∈ s.toList ∨ q ∈ t.toList := mem_toList_foldl_insert h

/-- **Sets are equal** when they hold the same. -/
theorem beq_iff : (s == t) = true ↔ ∀ q, s.contains q = t.contains q := by
  show (s.toList == t.toList) = true ↔ _
  rw [list_beq_iff_forall₂]
  constructor
  · intro h q
    have hany : ∀ {l l' : List Path}, List.Forall₂ (fun c c' : Path => (c == c') = true) l l' →
        l.any (· == q) = l'.any (· == q) := by
      intro l l' h
      induction h with
      | nil => rfl
      | cons hc _ ih => rw [List.any_cons, List.any_cons, ih, BEq.congr_left hc]
    rw [contains_eq_any, contains_eq_any, hany h]
  · intro h
    have hforth : ∀ {s t : PathSet}, (∀ q, s.contains q = t.contains q) → ∀ steps,
        (∃ c ∈ s.toList, c.components = steps) → ∃ c ∈ t.toList, c.components = steps := by
      rintro s t h steps ⟨c, hc, rfl⟩
      have hhas : t.contains c = true := h c ▸ contains_iff_toList.2 ⟨c, hc, BEq.rfl⟩
      obtain ⟨k, hk, hkc⟩ := contains_iff_toList.1 hhas
      exact ⟨k, hk, Path.beq_iff.1 hkc⟩
    apply forall₂_beq_of_sorted s.toMap.keys_sorted t.toMap.keys_sorted
    intro steps
    exact ⟨hforth h steps, hforth (fun q => (h q).symm) steps⟩

instance : EquivBEq PathSet where
  rfl := beq_iff.2 fun _ => rfl
  symm h := beq_iff.2 fun q => (beq_iff.1 h q).symm
  trans h h' := beq_iff.2 fun q => (beq_iff.1 h q).trans (beq_iff.1 h' q)

/-- A path that is there already is not added. -/
theorem insert_of_contains (h : s.contains p = true) : s.insert p = s := by
  obtain ⟨v, hv⟩ := PathMap.contains_iff.1 h
  have hrows : ∀ q, (s.toMap.insertNew p ()).row? q = s.toMap.row? q := by
    intro q
    unfold PathMap.insertNew
    rw [PathMap.row?_upsert]
    by_cases hqp : (q == p) = true
    · rw [if_pos hqp, PathMap.row?_congr hqp]
      rw [PathMap.find?_eq_map_row?] at hv
      cases hrow : s.toMap.row? p with
      | none => simp [hrow] at hv
      | some e => rfl
    · rw [if_neg hqp]
  exact congrArg PathSet.mk (PathMap.ext_row hrows)

/-- **Nothing is added to a set by itself,** and no element spelled in another way. -/
theorem union_self (s : PathSet) : s.union s = s := by
  have hfold : ∀ l : List Path, (∀ p ∈ l, s.contains p = true) → l.foldl insert s = s := by
    intro l hl
    induction l with
    | nil => rfl
    | cons p rest ih =>
      obtain ⟨hp, hrest⟩ := List.forall_mem_cons.1 hl
      rw [List.foldl_cons, insert_of_contains hp, ih hrest]
  exact hfold s.toList fun p hp => contains_iff_toList.2 ⟨p, hp, BEq.rfl⟩

/-- An element has one spelling. -/
theorem eq_of_mem_toList (hp : p ∈ s.toList) (hq : q ∈ s.toList) (h : (p == q) = true) : p = q :=
  PathMap.eq_of_mem_keys hp hq h

/-- Sets that list the same elements are the same. -/
theorem ext_toList (h : s.toList = t.toList) : s = t := by
  have hentries : ∀ s : PathSet, s.toMap.entries = s.toList.map fun p => (p, ()) := by
    intro s
    rw [toList, PathMap.keys, List.map_map]
    exact (List.map_id _).symm
  have hsame : s.toMap.entries = t.toMap.entries := by rw [hentries s, h, ← hentries t]
  obtain ⟨⟨entries, _⟩⟩ := s
  obtain ⟨⟨entries', _⟩⟩ := t
  obtain rfl : entries = entries' := hsame
  rfl

/-- **The elements of a set make up the set,** each under its spelling. -/
theorem ofList_toList (s : PathSet) : ofList s.toList = s := by
  have hlisted : ∀ {q}, q ∈ (ofList s.toList).toList → q ∈ s.toList := fun hq =>
    (mem_toList_foldl_insert hq).resolve_left List.not_mem_nil
  apply ext_toList
  refine @eq_of_sorted_of_mem_iff _ id _ _ (ofList s.toList).toMap.keys_sorted s.toMap.keys_sorted fun p => ?_
  refine ⟨hlisted, fun hp => ?_⟩
  have hcontains : (ofList s.toList).contains p = true := by
    rw [ofList, contains_foldl_insert, ← contains_eq_any, contains_iff_toList.2 ⟨p, hp, BEq.rfl⟩, Bool.or_true]
  obtain ⟨k, hk, hkp⟩ := contains_iff_toList.1 hcontains
  rw [← eq_of_mem_toList (hlisted hk) hp hkp]
  exact hk

theorem contains_of_head? (h : s.toList.head? = some p) : s.contains p = true :=
  contains_iff_toList.2 ⟨p, List.mem_of_head? h, BEq.rfl⟩

/-- **The first element** is after no other. -/
theorem not_lt_of_head? (h : s.toList.head? = some p) (hq : s.contains q = true) : ¬ q < p := by
  obtain ⟨k, hk, hkq⟩ := contains_iff_toList.1 hq
  have hsorted := s.toMap.keys_sorted
  intro hlt
  cases hl : s.toList with
  | nil => simp [hl] at h
  | cons first rest =>
    obtain rfl : first = p := by simpa [hl] using h
    rw [hl] at hk
    have hrest : (first :: rest).Pairwise (· < ·) := hl ▸ hsorted
    rcases List.mem_cons.1 hk with rfl | hk
    · exact Path.not_beq_of_lt hlt (BEq.symm hkq)
    · exact Path.lt_irrefl _ (Path.lt_trans (Path.lt_of_lt_of_beq ((List.pairwise_cons.1 hrest).1 k hk) hkq) hlt)

theorem exists_head? (h : s.contains q = true) : ∃ p, s.toList.head? = some p := by
  obtain ⟨k, hk, -⟩ := contains_iff_toList.1 h
  cases hl : s.toList with
  | nil => simp [hl] at hk
  | cons first rest => exact ⟨first, rfl⟩

end PathSet

end RootFold
