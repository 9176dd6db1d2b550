import RootFold.Path.Basic

/-!
# `RootFold.Path.Map` — maps and sets keyed by paths

Both are kept as lists in path order without repetition; the type carries that. A key that is inserted again
under another spelling keeps its first spelling and takes the new value.

## Contents
- **Maps.** `PathMap` with `find?`, `contains`, `insert`, `insertNew`, `erase`, `keys`, `values`.
- **Sets.** `PathSet` with `insert`, `union`, `ofList`, `toList`; `==` compares element by element.
-/

namespace RootFold

variable {α : Type}

/-- **A map from paths,** kept in path order. -/
structure PathMap (α : Type) where
  entries : List (Path × α)
  sorted : entries.Pairwise (fun a b => a.1 < b.1) := by exact .nil

namespace PathMap

/-- The map without entries. -/
def empty : PathMap α := ⟨[], .nil⟩

instance : Inhabited (PathMap α) := ⟨empty⟩
instance : EmptyCollection (PathMap α) := ⟨empty⟩

/-- The keys, in path order, each as it was first spelled. -/
def keys (m : PathMap α) : List Path := m.entries.map (·.1)

/-- The values, in the order of their keys. -/
def values (m : PathMap α) : List α := m.entries.map (·.2)

/-- The number of keys. -/
def size (m : PathMap α) : Nat := m.entries.length

/-- Whether there is no key. -/
def isEmpty (m : PathMap α) : Bool := m.entries.isEmpty

/-- The value at a path. -/
def find? (m : PathMap α) (p : Path) : Option α := (m.entries.find? (·.1 == p)).map (·.2)

/-- Whether a path is a key. -/
def contains (m : PathMap α) (p : Path) : Bool := (m.find? p).isSome

/-! ## Insertion -/

/-- Put a value at a path into a sorted list; `f` makes it from the value that was there. -/
def upsertEntry (p : Path) (f : Option α → α) : List (Path × α) → List (Path × α)
  | [] => [(p, f none)]
  | (q, v) :: rest =>
    if p < q then (p, f none) :: (q, v) :: rest
    else if q < p then (q, v) :: upsertEntry p f rest
    else (q, f (some v)) :: rest

/-- Keys keep their spelling. -/
theorem mem_upsertEntry {p : Path} {f : Option α → α} {a : Path × α} {l : List (Path × α)}
    (h : a ∈ upsertEntry p f l) : a.1 = p ∨ ∃ b ∈ l, a.1 = b.1 := by
  induction l with
  | nil =>
    obtain rfl : a = (p, f none) := by simpa [upsertEntry] using h
    exact .inl rfl
  | cons b rest ih =>
    obtain ⟨q, v⟩ := b
    unfold upsertEntry at h
    split at h
    · rcases List.mem_cons.1 h with rfl | h
      · exact .inl rfl
      · exact .inr ⟨a, h, rfl⟩
    · split at h
      · rcases List.mem_cons.1 h with rfl | h
        · exact .inr ⟨(q, v), by simp, rfl⟩
        · rcases ih h with h | ⟨b, hb, he⟩
          · exact .inl h
          · exact .inr ⟨b, List.mem_cons_of_mem _ hb, he⟩
      · rcases List.mem_cons.1 h with rfl | h
        · exact .inr ⟨(q, v), by simp, rfl⟩
        · exact .inr ⟨a, List.mem_cons_of_mem _ h, rfl⟩

theorem sorted_upsertEntry (p : Path) (f : Option α → α) {l : List (Path × α)}
    (h : l.Pairwise (fun a b => a.1 < b.1)) : (upsertEntry p f l).Pairwise (fun a b => a.1 < b.1) := by
  induction l with
  | nil => simp [upsertEntry]
  | cons b rest ih =>
    obtain ⟨q, v⟩ := b
    obtain ⟨hq, hrest⟩ := List.pairwise_cons.1 h
    unfold upsertEntry
    split
    · next hlt =>
      refine List.pairwise_cons.2 ⟨fun b hb => ?_, h⟩
      rcases List.mem_cons.1 hb with rfl | hb
      · exact hlt
      · exact Path.lt_trans hlt (hq b hb)
    · split
      · next hgt =>
        refine List.pairwise_cons.2 ⟨fun b hb => ?_, ih hrest⟩
        rcases mem_upsertEntry hb with he | ⟨b', hb', he⟩
        · rw [he]; exact hgt
        · rw [he]; exact hq b' hb'
      · exact List.pairwise_cons.2 ⟨fun b hb => hq b hb, hrest⟩

/-- **Put a value at a path,** made from the value that was there, if any. -/
def upsert (m : PathMap α) (p : Path) (f : Option α → α) : PathMap α :=
  ⟨upsertEntry p f m.entries, sorted_upsertEntry p f m.sorted⟩

/-- Put a value at a path, in place of any that was there. -/
def insert (m : PathMap α) (p : Path) (v : α) : PathMap α := m.upsert p fun _ => v

/-- Put a value at a path that has none; a value that is there stays. -/
def insertNew (m : PathMap α) (p : Path) (v : α) : PathMap α := m.upsert p (·.getD v)

/-- Take a path out. -/
def erase (m : PathMap α) (p : Path) : PathMap α :=
  ⟨m.entries.filter (!·.1 == p), m.sorted.filter _⟩

/-- The map of a list of rows, added in order. -/
def ofList (rows : List (Path × α)) : PathMap α := rows.foldl (fun m row => m.insert row.1 row.2) empty

end PathMap

/-! ## Sets -/

/-- **A set of paths,** kept in path order. -/
structure PathSet where
  toMap : PathMap Unit

namespace PathSet

/-- The set without elements. -/
def empty : PathSet := ⟨.empty⟩

instance : Inhabited PathSet := ⟨empty⟩
instance : EmptyCollection PathSet := ⟨empty⟩

/-- The elements in path order, each as it was first spelled. -/
def toList (s : PathSet) : List Path := s.toMap.keys

/-- Whether there is no element. -/
def isEmpty (s : PathSet) : Bool := s.toMap.isEmpty

/-- Whether a path is in the set. -/
def contains (s : PathSet) (p : Path) : Bool := s.toMap.contains p

/-- The set with a path added; one that is there keeps its spelling. -/
def insert (s : PathSet) (p : Path) : PathSet := ⟨s.toMap.insertNew p ()⟩

/-- All elements of both sets; the first set's spelling stands. -/
def union (s t : PathSet) : PathSet := t.toList.foldl insert s

/-- The set of a list's elements, added in order. -/
def ofList (paths : List Path) : PathSet := paths.foldl insert empty

instance : BEq PathSet := ⟨fun s t => s.toList == t.toList⟩

end PathSet

end RootFold
