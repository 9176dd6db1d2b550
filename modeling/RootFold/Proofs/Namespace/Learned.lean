import RootFold.Proofs.Merge.Outcome
import RootFold.Proofs.Namespace.Inquiry

/-!
# `RootFold.Proofs.Namespace.Learned` — what a cache knows once some folders were registered

A cache asks about a file once and remembers the answer, so a folder is looked up through the first answer about its
file. Each folder that has an answer then adds the rows that its file places, behind those of the folders before it.
What the cache knows about a directory is the first of all these rows: the registration of a whole list is said
without going through it, and with the answers that the cache has in the end.

## Contents
- **Rows.** `Folder.taught`, and the answers of a cache as a resolver, `NamespaceCache.recalled`; one request is
  `lookup_perform`, and all of them, `lookup_after`.
- **One resolver.** `filesOf`, `firstSpelled`; `learned_eq_after` and `lookup_learned`.
-/

namespace RootFold

variable {resolver resolver' : Resolver} {folders : List Folder} {f : Folder} {asked asked' : List Path}
  {file p q : Path} {answer : Option Path} {c : NamespaceCache}

/-! ## Rows -/

/-- The spelling under which a file was asked about first. -/
def firstSpelled (asked : List Path) (file : Path) : Path := (asked.find? (· == file)).getD file

/-- As long as nothing was asked about, every file keeps its own spelling. -/
theorem firstSpelled_nil (file : Path) : firstSpelled [] file = file := rfl

namespace Folder

/-- **What a folder teaches** when some files are asked about, its own among them: the rows that its file places. -/
def taught (f : Folder) (resolver : Resolver) (asked : List Path) : List (Path × Path) :=
  if f.wantsNamespacePrefix then
    match resolver.resolve (firstSpelled asked f.representative) with
    | some answer => NamespaceCache.placementsOfFile f.representative answer
    | none => []
  else []

theorem taught_of_not_wants (h : f.wantsNamespacePrefix = false) : f.taught resolver asked = [] := by
  rw [taught, h]
  rfl

/-- What a folder teaches depends on the answer about its file. -/
theorem taught_congr
    (h : f.wantsNamespacePrefix = true → resolver.resolve (firstSpelled asked f.representative) =
      resolver'.resolve (firstSpelled asked' f.representative)) :
    f.taught resolver asked = f.taught resolver' asked' := by
  unfold taught
  split
  · next hwants => rw [h hwants]
  · rfl

end Folder

namespace NamespaceCache

/-- **The answers of a cache,** as a resolver. A file that it was not asked about has no namespace. -/
def recalled (c : NamespaceCache) : Resolver where
  resolve file := (c.answer? file).join

/-- The folder that a request registers. -/
def Request.folder? : Request → Option Folder
  | resolve _ _ => none
  | register _ folder => some folder

/-- **The folders that are registered** by some requests, in order. -/
def registeredBy (requests : List Request) : List Folder := requests.filterMap Request.folder?

theorem registeredBy_concat (requests : List Request) (r : Request) :
    registeredBy (requests ++ [r]) = registeredBy requests ++ r.folder?.toList := by
  unfold registeredBy
  rw [List.filterMap_append]
  cases h : r.folder? <;> simp [h]

theorem registeredBy_map_register (resolver : Resolver) (folders : List Folder) :
    registeredBy (folders.map (.register resolver)) = folders := by
  unfold registeredBy
  rw [List.filterMap_map]
  exact List.filterMap_some

/-- A question teaches nothing about directories. -/
theorem lookup_resolve (c : NamespaceCache) (resolver : Resolver) (file q : Path) :
    (c.resolve resolver file).2.lookup q = c.lookup q := by
  unfold resolve
  cases c.answer? file <;> rfl

/-- What a folder teaches through the answer that a cache has about its file. -/
theorem taught_recalled (hwants : f.wantsNamespacePrefix = true) (h : c.answer? f.representative = some answer) :
    f.taught c.recalled [] = answer.elim [] (placementsOfFile f.representative) := by
  have hanswer : c.recalled.resolve (firstSpelled [] f.representative) = answer := by
    show (c.answer? f.representative).join = answer
    rw [h]
    rfl
  rw [Folder.taught, if_pos hwants, hanswer]
  cases answer <;> rfl

/-- **One request** adds the rows that the folder teaches, if it registers one, behind what is known. -/
theorem lookup_perform (c : NamespaceCache) (r : Request) (q : Path) :
    (c.perform r).lookup q =
      (c.lookup q).or
        (((r.folder?.toList.flatMap (·.taught (c.perform r).recalled [])).find? (·.1 == q)).map (·.2)) := by
  cases r with
  | resolve resolver file =>
    show (c.resolve resolver file).2.lookup q = (c.lookup q).or none
    rw [lookup_resolve, Option.or_none]
  | register resolver f =>
    simp only [perform, Request.folder?, Option.toList_some, List.flatMap_singleton]
    cases hwants : f.wantsNamespacePrefix with
    | false =>
      rw [Folder.taught_of_not_wants hwants, register_of_not_wants hwants]
      simp
    | true =>
      have hanswer := answer?_resolve_self c resolver f.representative
      have hlookup := lookup_resolve c resolver f.representative q
      cases hres : c.resolve resolver f.representative with
      | mk answer c' =>
        rw [hres] at hanswer hlookup
        cases answer with
        | none =>
          rw [register_of_no_namespace hwants hres, taught_recalled hwants hanswer, hlookup]
          simp
        | some ns =>
          have hplaced : (c'.place (placementsOfFile f.representative ns)).answer? f.representative = some (some ns) :=
            hanswer
          rw [register_of_resolve hwants hres, taught_recalled hwants hplaced, lookup_place, hlookup]
          rfl

/-- The file of a folder that was registered has an answer. -/
theorem exists_answer?_of_registered (requests : List Request) (hf : f ∈ registeredBy requests)
    (hwants : f.wantsNamespacePrefix = true) : ∃ answer, (after requests).answer? f.representative = some answer := by
  obtain ⟨r, hr, hfolder⟩ := List.mem_filterMap.1 hf
  cases r with
  | resolve resolver file => exact absurd hfolder nofun
  | register resolver g =>
    obtain rfl : g = f := Option.some.inj hfolder
    have hq : (⟨resolver, g.representative⟩ : Question) ∈ questionsOf requests :=
      List.mem_filterMap.2 ⟨_, hr, if_pos hwants⟩
    rw [← Option.isSome_iff_exists, answer?_after, isSome_firstAnswer?, List.contains_iff_exists_mem_beq]
    exact ⟨_, List.mem_map_of_mem hq, BEq.rfl⟩

/-- **What is known after any requests:** the first row about a directory, of all that the registered folders teach one
    after the other. -/
theorem lookup_after (requests : List Request) (q : Path) :
    (after requests).lookup q =
      (((registeredBy requests).flatMap (·.taught (after requests).recalled [])).find? (·.1 == q)).map (·.2) := by
  induction requests using List.reverseRecOn with
  | nil => rfl
  | append_singleton requests r ih =>
    -- the folders before have their answers already, and these stand
    have hstands : ∀ f ∈ registeredBy requests,
        f.taught (after requests).recalled [] = f.taught ((after requests).perform r).recalled [] := by
      intro f hf
      apply Folder.taught_congr
      intro hwants
      obtain ⟨answer, hanswer⟩ := exists_answer?_of_registered requests hf hwants
      show ((after requests).answer? f.representative).join =
        (((after requests).perform r).answer? f.representative).join
      rw [answer?_perform, hanswer, Option.some_or]
    rw [after_concat, lookup_perform, ih, List.flatMap_congr hstands, registeredBy_concat, List.flatMap_append,
      List.find?_append, Option.map_or]

end NamespaceCache

/-! ## One resolver -/

/-- **The files that folders are looked up through,** in order. A folder that wants no prefix is not looked up. -/
def filesOf (folders : List Folder) : List Path :=
  (folders.filter (·.wantsNamespacePrefix)).map (·.representative)

/-- A file that no other one is the same place as is asked about as it is spelled. -/
theorem firstSpelled_eq_self (hasked : asked.Pairwise fun a b => ¬ (a == b) = true) (h : file ∈ asked) :
    firstSpelled asked file = file := by
  rw [firstSpelled]
  cases hfind : asked.find? (· == file) with
  | none => rfl
  | some first =>
    have hsame : (first == file) = true := List.find?_some (p := fun a : Path => a == file) hfind
    exact eq_of_distinct hasked (List.mem_of_find?_eq_some hfind) h hsame

namespace NamespaceCache

/-- A list of folders is learned by one request for each. -/
theorem learned_eq_after (resolver : Resolver) (folders : List Folder) :
    learned resolver folders = after (folders.map (.register resolver)) := by
  unfold learned after
  rw [List.foldl_map]
  rfl

/-- The questions that folders raise when one resolver is asked. -/
theorem questionsOf_map_register (resolver : Resolver) (folders : List Folder) :
    questionsOf (folders.map (.register resolver)) = (filesOf folders).map (Question.mk resolver) := by
  induction folders with
  | nil => rfl
  | cons f rest ih =>
    unfold questionsOf filesOf at ih ⊢
    rw [List.map_cons, List.filterMap_cons, List.filter_cons, ih, Request.question?]
    cases f.wantsNamespacePrefix <;> rfl

/-- The first answer that one resolver gives about a file. -/
theorem firstAnswer?_map (resolver : Resolver) (asked : List Path) (file : Path) :
    firstAnswer? (asked.map (Question.mk resolver)) file = (asked.find? (· == file)).map resolver.resolve := by
  unfold firstAnswer?
  rw [List.find?_map, Option.map_map]
  rfl

/-- **What is known once some folders were registered:** the first row about a directory, of all that the folders
    teach one after the other. -/
theorem lookup_learned (resolver : Resolver) (folders : List Folder) (q : Path) :
    (learned resolver folders).lookup q =
      ((folders.flatMap (·.taught resolver (filesOf folders))).find? (·.1 == q)).map (·.2) := by
  have htaught : ∀ f ∈ folders,
      f.taught (after (folders.map (.register resolver))).recalled [] = f.taught resolver (filesOf folders) := by
    intro f hf
    apply Folder.taught_congr
    intro hwants
    show ((after (folders.map (.register resolver))).answer? f.representative).join = _
    rw [answer?_after, questionsOf_map_register, firstAnswer?_map, firstSpelled]
    have hlisted : f.representative ∈ filesOf folders := List.mem_map_of_mem (List.mem_filter.2 ⟨hf, hwants⟩)
    cases hfind : (filesOf folders).find? (· == f.representative) with
    | none => exact absurd BEq.rfl (List.find?_eq_none.1 hfind _ hlisted)
    | some first => rfl
  rw [learned_eq_after, lookup_after, registeredBy_map_register, List.flatMap_congr htaught]

end NamespaceCache

end RootFold
