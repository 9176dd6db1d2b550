import RootFold.Proofs.Merge.Outcome
import RootFold.Proofs.Namespace.Placement

/-!
# `RootFold.Proofs.Namespace.Mirror` — what is known when every directory is its own namespace

With the directory resolver, whatever a cache knows about a directory is the directory itself; which files were
asked about, and in which order, only decides what is known at all. A directory is known when one of the registered
folders places it, that is, when the folder's file is reached from it by ordinary names and one last step.
Namespaces then follow a single step down from a directory as soon as both ends are known.

## Contents
- **Answers.** `Mirrors` caches; `Mirrors.resolve`.
- **Placements.** `Folder.Places`, `exists_places_iff`.
- **Registration.** `Mirrors.register`; `MirrorOf` caches, `mirrorOf_namespacesOf`.
- **Steps.** `MirrorOf.follows_iff`.
-/

namespace RootFold

variable {c : NamespaceCache} {folders : List Folder} {f : Folder} {file d q m : Path}

/-! ## Answers -/

/-- **A cache that knows directories as their own namespaces,** from answers that were the files' directories. -/
structure NamespaceCache.Mirrors (c : NamespaceCache) : Prop where
  answers : ∀ e ∈ c.answers, ∃ d, e.2 = some d ∧ d.components = e.1.components.dropLast
  directories : ∀ q d, c.lookup q = some d → (d == q) = true

theorem NamespaceCache.mirrors_empty : NamespaceCache.empty.Mirrors :=
  ⟨fun _ he => absurd he List.not_mem_nil, fun _ _ h => absurd h (by simp [NamespaceCache.empty, lookup])⟩

/-- The answer for a file is its directory, remembered or not. -/
theorem NamespaceCache.Mirrors.resolve (h : c.Mirrors) (file : Path) :
    ∃ d answers, c.resolve .directory file = (some d, { c with answers }) ∧
      d.components = file.components.dropLast ∧ NamespaceCache.Mirrors { c with answers } := by
  rw [NamespaceCache.resolve]
  split
  · next known hknown =>
    -- remembered for a file that may have been spelled differently
    obtain ⟨e, he, rfl⟩ := Option.map_eq_some_iff.1 hknown
    obtain ⟨d, hd, hcomponents⟩ := h.answers e (List.mem_of_find?_eq_some he)
    have hfile : (e.1 == file) = true := List.find?_some (p := fun e : Path × Option Path => e.1 == file) he
    refine ⟨d, c.answers, by rw [hd], ?_, h⟩
    rw [hcomponents, Path.beq_iff.1 hfile]
  · have hdir := Path.components_parent?_getD file
    refine ⟨Resolver.containingDirectory file, _, rfl, hdir, fun e he => ?_, h.directories⟩
    rcases List.mem_append.1 he with he | he
    · exact h.answers e he
    · obtain rfl := List.mem_singleton.1 he
      exact ⟨Resolver.containingDirectory file, rfl, hdir⟩

/-! ## Placements -/

/-- **A folder places a directory** when ordinary names and one last step lead from there to the folder's file. -/
structure Folder.Places (f : Folder) (q : Path) : Prop where
  wants : f.wantsNamespacePrefix = true
  nonempty : q.components ≠ []
  names : ∃ (words : List String) (last : Component),
    f.representative.components = q.components ++ words.map .name ++ [last]

/-- A file in its own directory places directories in themselves. -/
theorem beq_of_mem_placementsOfFile (hd : d.components = file.components.dropLast) {row : Path × Path}
    (hrow : row ∈ NamespaceCache.placementsOfFile file d) : (row.2 == row.1) = true := by
  obtain ⟨-, words, last, hfile, hns⟩ := (exists_placementsOfFile_iff file d).1 ⟨row, hrow, BEq.rfl, BEq.rfl⟩
  rw [hfile, List.dropLast_concat] at hd
  exact Path.beq_iff.2 (List.append_cancel_right (hns.symm.trans hd))

/-- **What a file in its own directory places.** -/
theorem exists_places_iff (hd : d.components = file.components.dropLast) :
    (∃ row ∈ NamespaceCache.placementsOfFile file d, (row.1 == q) = true) ↔
      q.components ≠ [] ∧ ∃ (words : List String) (last : Component),
        file.components = q.components ++ words.map .name ++ [last] := by
  constructor
  · rintro ⟨row, hrow, hq⟩
    obtain ⟨hne, words, last, hfile, -⟩ := (exists_placementsOfFile_iff file d).1 ⟨row, hrow, hq, BEq.rfl⟩
    exact ⟨hne, words, last, hfile⟩
  · rintro ⟨hne, words, last, hfile⟩
    have hself : d.components = q.components ++ words.map .name := by rw [hd, hfile, List.dropLast_concat]
    obtain ⟨row, hrow, hq, -⟩ := (exists_placementsOfFile_iff file d).2 ⟨hne, words, last, hfile, hself⟩
    exact ⟨row, hrow, hq⟩

/-! ## Registration -/

namespace NamespaceCache

theorem exists_lookup_place {rows : List (Path × Path)} :
    (∃ d, (c.place rows).lookup q = some d) ↔ (∃ d, c.lookup q = some d) ∨ ∃ row ∈ rows, (row.1 == q) = true := by
  rw [lookup_place, ← Option.isSome_iff_exists, ← Option.isSome_iff_exists, Option.isSome_or, Bool.or_eq_true,
    Option.isSome_map, List.find?_isSome]

theorem Mirrors.place (h : c.Mirrors) {rows : List (Path × Path)} (hrows : ∀ row ∈ rows, (row.2 == row.1) = true) :
    (c.place rows).Mirrors where
  answers := h.answers
  directories q d hd := by
    rw [lookup_place] at hd
    rcases Option.or_eq_some_iff.1 hd with hd | ⟨-, hd⟩
    · exact h.directories q d hd
    · obtain ⟨row, hrow, rfl⟩ := Option.map_eq_some_iff.1 hd
      have hkey : (row.1 == q) = true := List.find?_some (p := fun row : Path × Path => row.1 == q) hrow
      exact BEq.trans (hrows row (List.mem_of_find?_eq_some hrow)) hkey

/-- **One more folder** makes known what it places. -/
theorem Mirrors.register (h : c.Mirrors) (f : Folder) :
    (c.register .directory f).1.Mirrors ∧
      ∀ q, (∃ d, (c.register .directory f).1.lookup q = some d) ↔ (∃ d, c.lookup q = some d) ∨ f.Places q := by
  cases hwants : f.wantsNamespacePrefix with
  | false =>
    have hnot : ∀ q, ¬ f.Places q := fun q hp => by simp [hp.wants] at hwants
    rw [register_of_not_wants hwants]
    exact ⟨h, fun q => (or_iff_left (hnot q)).symm⟩
  | true =>
    obtain ⟨d, answers, hres, hd, hmirrors⟩ := h.resolve f.representative
    rw [register_of_resolve hwants hres]
    refine ⟨hmirrors.place fun row hrow => beq_of_mem_placementsOfFile hd hrow, fun q => ?_⟩
    rw [exists_lookup_place, exists_places_iff hd]
    exact or_congr Iff.rfl ⟨fun hp => ⟨hwants, hp.1, hp.2⟩, fun hp => ⟨hp.nonempty, hp.names⟩⟩

private theorem mirrors_foldl_register (folders : List Folder) {c : NamespaceCache} (h : c.Mirrors) :
    (folders.foldl (fun c f => (c.register .directory f).1) c).Mirrors ∧
      ∀ q, (∃ d, (folders.foldl (fun c f => (c.register .directory f).1) c).lookup q = some d) ↔
        (∃ d, c.lookup q = some d) ∨ ∃ f ∈ folders, f.Places q := by
  induction folders generalizing c with
  | nil => exact ⟨h, fun q => by simp⟩
  | cons f rest ih =>
    obtain ⟨hmirrors, hknown⟩ := h.register f
    obtain ⟨hmirrors', hknown'⟩ := ih hmirrors
    refine ⟨hmirrors', fun q => ?_⟩
    rw [List.foldl_cons, hknown', hknown, or_assoc]
    simp

/-- **A mirror of some folders** knows the directories that one of them places, each as its own namespace. -/
structure MirrorOf (c : NamespaceCache) (folders : List Folder) : Prop extends Mirrors c where
  known : ∀ q, (∃ d, c.lookup q = some d) ↔ ∃ f ∈ folders, f.Places q

theorem mirrorOf_learned (folders : List Folder) : (learned .directory folders).MirrorOf folders := by
  obtain ⟨hmirrors, hknown⟩ := mirrors_foldl_register folders mirrors_empty
  refine ⟨hmirrors, fun q => ?_⟩
  rw [learned, hknown]
  exact or_iff_right (by simp [NamespaceCache.empty, lookup])

/-- **A pass mirrors its folders,** whatever their order is. -/
theorem mirrorOf_namespacesOf (folders : List Folder) :
    (namespacesOf .directory folders).MirrorOf (declaredFolders folders) where
  toMirrors := (mirrorOf_learned _).toMirrors
  known q := by
    rw [namespacesOf, (mirrorOf_learned _).known]
    simp only [(declaredFolders_sortByPath_perm folders).mem_iff]

/-! ## Steps -/

/-- **Placed directories follow one another.** -/
theorem MirrorOf.follows_iff (h : c.MirrorOf folders) (hq : q.LiesIn m) :
    c.Follows m q ↔ (∃ f ∈ folders, f.Places m) ∧ ∃ f ∈ folders, f.Places q := by
  rw [← h.known, ← h.known]
  constructor
  · rintro ⟨u, l, hu, hl, -⟩
    exact ⟨⟨u, hu⟩, l, hl⟩
  · rintro ⟨⟨u, hu⟩, l, hl⟩
    obtain ⟨hne, last, hlast⟩ := Path.liesIn_iff.1 hq
    rw [NamespaceCache.follows_iff hu hl, Path.beq_iff.1 (h.directories m u hu),
      Path.beq_iff.1 (h.directories q l hl)]
    exact ⟨hne, [last], hlast, by rw [hlast, List.length_append]⟩

end NamespaceCache

end RootFold
