import RootFold.Namespace.Cache
import RootFold.Proofs.Path.Climb
import RootFold.Proofs.Path.Map

/-!
# `RootFold.Proofs.Namespace.Placement` — what one answer places, and what a cache keeps of it

An answer places a directory and those above it as long as directory and namespace end in the same name. Said
without a recursion: it places a directory in a namespace when the same ordinary names behind both give the directory
and the namespace of the answer. A cache keeps the first placement of a directory.

## Contents
- **Names.** A path that ends in a name has a parent.
- **Placements.** `placements_cases` for one level, `exists_placements_iff` for all, and
  `exists_placementsOfFile_iff` for those of a file.
- **Caches.** `lookup_place`, and what a registration does, `register_of_not_wants`, `register_of_no_namespace` and
  `register_of_resolve`.
-/

namespace RootFold

variable {directory ns a b p q : Path} {s : String}

/-! ## Names -/

namespace Path

/-- A path that ends in a name has a parent. -/
theorem exists_parent?_of_fileName? (h : p.fileName? = some s) : ∃ q, p.parent? = some q := by
  cases hpar : p.parent? with
  | some q => exact ⟨q, rfl⟩
  | none =>
    obtain ⟨front, hfront⟩ := fileName?_eq_some_iff.1 h
    have hs : p.spelling.parent? = none := by simpa [parent?] using hpar
    have hlast : p.components.getLast? = some (.name s) := by rw [hfront, List.getLast?_concat]
    rcases Spelling.components_of_parent?_eq_none hs with hc | hc <;> rw [components_spelling] at hc <;>
      exact absurd hlast (by simp [hc])

end Path

/-! ## Placements -/

/-- **One level of placements.** The next one is above directory and namespace if both end in the same name and
    there is a directory above. -/
theorem placements_cases (directory ns : Path) :
    (∃ s above nsAbove, directory.fileName? = some s ∧ ns.fileName? = some s ∧
      directory.parentDir? = some above ∧ ns.parent? = some nsAbove ∧
      placements directory ns = (directory, ns) :: placements above nsAbove) ∨
    ((∀ s, directory.fileName? = some s → ns.fileName? = some s → directory.parentDir? = none) ∧
      placements directory ns = [(directory, ns)]) := by
  rw [placements]
  split
  · next h =>
    obtain ⟨hsome, heq⟩ := Bool.and_eq_true_iff.1 h
    obtain ⟨s, hs⟩ := Option.isSome_iff_exists.1 hsome
    have hns : ns.fileName? = some s := (eq_of_beq heq).symm.trans hs
    obtain ⟨nsAbove, hnsAbove⟩ := Path.exists_parent?_of_fileName? hns
    split
    · next above nsAbove' habove hnsAbove' => exact .inl ⟨s, above, nsAbove', hs, hns, habove, hnsAbove', rfl⟩
    · next hnone =>
      refine .inr ⟨fun s _ _ => ?_, rfl⟩
      cases habove : directory.parentDir? with
      | none => rfl
      | some above => exact absurd hnsAbove (hnone above nsAbove habove)
  · next h =>
    refine .inr ⟨fun s hs hns => absurd ?_ h, rfl⟩
    rw [hs, hns]
    simp

theorem mem_placements_self (directory ns : Path) : (directory, ns) ∈ placements directory ns := by
  rw [placements]
  exact List.mem_cons_self

/-- The names behind a directory, one more of them. -/
private theorem append_names_concat (xs : List Component) (words : List String) (s : String) :
    xs ++ (words ++ [s]).map .name = xs ++ words.map .name ++ [.name s] := by
  rw [List.map_append, ← List.append_assoc]
  rfl

/-- **All levels of placements.** A directory is placed in a namespace when the same names lie behind both. -/
theorem exists_placements_iff (directory ns : Path) (hd : directory.components ≠ []) :
    (∃ row ∈ placements directory ns, (row.1 == a) = true ∧ (row.2 == b) = true) ↔
      a.components ≠ [] ∧ ∃ words : List String, directory.components = a.components ++ words.map .name ∧
        ns.components = b.components ++ words.map .name := by
  have hhere : (directory == a) = true → (ns == b) = true →
      a.components ≠ [] ∧ ∃ words : List String, directory.components = a.components ++ words.map .name ∧
        ns.components = b.components ++ words.map .name := by
    intro ha hb
    exact ⟨Path.beq_iff.1 ha ▸ hd, [], by simpa using Path.beq_iff.1 ha, by simpa using Path.beq_iff.1 hb⟩
  have hback : directory.components = a.components → ns.components = b.components →
      ∃ row ∈ placements directory ns, (row.1 == a) = true ∧ (row.2 == b) = true := by
    intro ha hb
    exact ⟨_, mem_placements_self directory ns, Path.beq_iff.2 ha, Path.beq_iff.2 hb⟩
  rcases placements_cases directory ns with
    ⟨s, above, nsAbove, hs, hns, habove, hnsAbove, heq⟩ | ⟨hstop, heq⟩
  · obtain ⟨front, hfront⟩ := Path.fileName?_eq_some_iff.1 hs
    obtain ⟨nsFront, hnsFront⟩ := Path.fileName?_eq_some_iff.1 hns
    have hac : above.components = front := by
      rw [Path.components_of_parentDir? habove, hfront, List.dropLast_concat]
    have hnc : nsAbove.components = nsFront := by
      rw [Path.components_of_parent? hnsAbove, hnsFront, List.dropLast_concat]
    -- one name taken off both, or put behind both
    have ih := exists_placements_iff above nsAbove (Path.components_ne_nil_of_parentDir? habove)
    constructor
    · rintro ⟨row, hrow, ha, hb⟩
      rw [heq] at hrow
      rcases List.mem_cons.1 hrow with rfl | hrow
      · exact hhere ha hb
      · obtain ⟨hne, words, hw, hnw⟩ := ih.1 ⟨row, hrow, ha, hb⟩
        refine ⟨hne, words ++ [s], ?_, ?_⟩
        · rw [append_names_concat, ← hw, hac, hfront]
        · rw [append_names_concat, ← hnw, hnc, hnsFront]
    · rintro ⟨hne, words, hw, hnw⟩
      rcases List.eq_nil_or_concat words with rfl | ⟨front', last, rfl⟩
      · exact hback (by simpa using hw) (by simpa using hnw)
      · rw [List.concat_eq_append, append_names_concat] at hw hnw
        rw [hfront] at hw
        rw [hnsFront] at hnw
        obtain ⟨row, hrow, hab⟩ := ih.2 ⟨hne, front', hac.trans (List.append_inj_left' hw rfl),
          hnc.trans (List.append_inj_left' hnw rfl)⟩
        exact ⟨row, by rw [heq]; exact List.mem_cons_of_mem _ hrow, hab⟩
  · constructor
    · rintro ⟨row, hrow, ha, hb⟩
      rw [heq] at hrow
      obtain rfl := List.mem_singleton.1 hrow
      exact hhere ha hb
    · rintro ⟨hne, words, hw, hnw⟩
      rcases List.eq_nil_or_concat words with rfl | ⟨front', last, rfl⟩
      · exact hback (by simpa using hw) (by simpa using hnw)
      · -- both end in the same name, so only a missing directory above can have stopped
        rw [List.concat_eq_append, append_names_concat] at hw hnw
        have htop := hstop last (Path.fileName?_eq_some_iff.2 ⟨_, hw⟩) (Path.fileName?_eq_some_iff.2 ⟨_, hnw⟩)
        have hlen := Path.parentDir?_eq_none_iff.1 htop
        have hpos := List.length_pos_iff.2 hne
        rw [hw] at hlen
        simp only [List.length_append, List.length_singleton] at hlen
        omega
termination_by directory.components.length
decreasing_by exact Path.length_components_of_parentDir? habove

/-- **What a file places:** a directory in a namespace, when the same names lie behind the directory on the way to
    the file and behind the namespace. -/
theorem exists_placementsOfFile_iff (file ns : Path) :
    (∃ row ∈ NamespaceCache.placementsOfFile file ns, (row.1 == a) = true ∧ (row.2 == b) = true) ↔
      a.components ≠ [] ∧ ∃ (words : List String) (last : Component),
        file.components = a.components ++ words.map .name ++ [last] ∧
        ns.components = b.components ++ words.map .name := by
  rw [NamespaceCache.placementsOfFile]
  cases hpar : file.parentDir? with
  | none =>
    -- a file at the top is in no directory
    refine ⟨fun ⟨row, hrow, _⟩ => absurd hrow List.not_mem_nil, ?_⟩
    rintro ⟨ha, words, last, hfile, -⟩
    have hlen := Path.parentDir?_eq_none_iff.1 hpar
    have hpos := List.length_pos_iff.2 ha
    rw [hfile] at hlen
    simp only [List.length_append, List.length_singleton] at hlen
    omega
  | some directory =>
    have hplaced := exists_placements_iff (a := a) (b := b) directory ns
      (Path.components_ne_nil_of_parentDir? hpar)
    obtain ⟨last, hlast⟩ := Path.exists_concat_of_parentDir? hpar
    refine hplaced.trans (and_congr_right fun _ => ⟨?_, ?_⟩)
    · rintro ⟨words, hwords, hns⟩
      exact ⟨words, last, by rw [hlast, hwords], hns⟩
    · rintro ⟨words, last', hfile, hns⟩
      exact ⟨words, List.append_inj_left' (hlast.symm.trans hfile) rfl, hns⟩

/-! ## Caches -/

namespace NamespaceCache

variable {c : NamespaceCache}

private theorem find?_foldl_insertNew (rows : List (Path × Path)) (m : PathMap Path) :
    (rows.foldl (fun m row => m.insertNew row.1 row.2) m).find? q =
      (m.find? q).or ((rows.find? (·.1 == q)).map (·.2)) := by
  induction rows generalizing m with
  | nil => simp
  | cons row rest ih =>
    rw [List.foldl_cons, ih, PathMap.find?_insertNew, List.find?_cons, BEq.comm (a := q)]
    cases h : row.1 == q with
    | false => rfl
    | true =>
      rw [if_pos rfl, PathMap.find?_congr h]
      cases m.find? q <;> rfl

/-- **What is known about a directory first stands.** -/
theorem lookup_place (rows : List (Path × Path)) :
    (c.place rows).lookup q = (c.lookup q).or ((rows.find? (·.1 == q)).map (·.2)) :=
  find?_foldl_insertNew rows c.directories

/-- A folder that wants no prefix teaches nothing. -/
theorem register_of_not_wants {resolver : Resolver} {f : Folder} (h : f.wantsNamespacePrefix = false) :
    (c.register resolver f).1 = c := by
  rw [register, h]
  rfl

/-- A folder whose file has no namespace teaches nothing. -/
theorem register_of_no_namespace {resolver : Resolver} {f : Folder} {c' : NamespaceCache}
    (hwants : f.wantsNamespacePrefix = true) (h : c.resolve resolver f.representative = (none, c')) :
    (c.register resolver f).1 = c' := by
  simp only [register, hwants, h]
  rfl

/-- A folder whose file has a namespace places what is above the file. -/
theorem register_of_resolve {resolver : Resolver} {f : Folder} {c' : NamespaceCache}
    (hwants : f.wantsNamespacePrefix = true) (h : c.resolve resolver f.representative = (some ns, c')) :
    (c.register resolver f).1 = c'.place (placementsOfFile f.representative ns) := by
  simp only [register, hwants, h]
  rfl

end NamespaceCache

end RootFold
