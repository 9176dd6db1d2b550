import RootFold.Proofs.Namespace.Learned
import RootFold.Proofs.Pass.Exclusion

/-!
# `RootFold.Proofs.Pass.Lookups` — a pass looks up each file once

A pass asks its resolver about the files of the folders that want a prefix, as it takes the folders in, and never again.
That these are all the questions it asks is more than a list of files can say; it is seen from outside, by another
resolver: one that answers alike about the files in the list cannot be told from the first.

## Contents
- **The list.** `NamespaceCache.calls_learned`.
- **Other resolvers.** `Resolver.AlikeOn`; one folder is `register_congr`, all of them `takeIn_congr`, and the whole pass
  `runPass_congr`.
- **Each file once.** `pass_asks_once`.
-/

namespace RootFold

variable {resolver resolver' : Resolver} {folders : List Folder} {f : Folder} {c : NamespaceCache}
  {s s' : Intake}

/-! ## The list -/

/-- The files that are asked about when some folders are registered. -/
theorem NamespaceCache.calls_learned (resolver : Resolver) (folders : List Folder) :
    (learned resolver folders).calls = (filesOf folders).eraseDups := by
  rw [learned_eq_after, calls_after, questionsOf_map_register, List.map_map]
  exact congrArg List.eraseDups (List.map_id _)

/-! ## Other resolvers -/

/-- **Two resolvers that cannot be told apart** by asking about some files. -/
def Resolver.AlikeOn (resolver resolver' : Resolver) (files : List Path) : Prop :=
  ∀ file ∈ files, resolver.resolve file = resolver'.resolve file ∧ resolver.remarks file = resolver'.remarks file

theorem Resolver.AlikeOn.mono {files more : List Path} (h : resolver.AlikeOn resolver' more) (hsub : files ⊆ more) :
    resolver.AlikeOn resolver' files := fun file hfile => h file (hsub hfile)

namespace NamespaceCache

/-- What was asked about before stays in the list. -/
theorem calls_subset_register (c : NamespaceCache) (resolver : Resolver) (f : Folder) :
    c.calls ⊆ (c.register resolver f).1.calls := by
  have hcalls := calls_perform c (.register resolver f)
  show c.calls ⊆ (c.perform (.register resolver f)).calls
  rw [hcalls]
  cases (Request.register resolver f).question? with
  | none => exact List.Subset.refl _
  | some q =>
    rw [Option.elim_some]
    split
    · exact List.Subset.refl _
    · exact List.subset_append_left _ _

/-- A file that is asked about now is in the list from now on. -/
theorem mem_calls_register (hwants : f.wantsNamespacePrefix = true) (hnew : c.answer? f.representative = none) :
    f.representative ∈ (c.register resolver f).1.calls := by
  have hcalls := calls_perform c (.register resolver f)
  have hnot : ¬ c.calls.contains f.representative = true := by
    rw [← isSome_answer?, hnew]
    exact Bool.false_ne_true
  rw [Request.question?, if_pos hwants, Option.elim_some, if_neg hnot] at hcalls
  show f.representative ∈ (c.perform (.register resolver f)).calls
  rw [hcalls]
  exact List.mem_append_right _ List.mem_cons_self

/-- **One folder** is taken note of alike if the resolvers answer alike about its file, should they be asked. -/
theorem register_congr (h : resolver.AlikeOn resolver' (c.register resolver f).1.calls) :
    c.register resolver f = c.register resolver' f := by
  by_cases hwants : f.wantsNamespacePrefix = true
  · have hresolve : c.resolve resolver f.representative = c.resolve resolver' f.representative ∧
        c.resolveNotes resolver f.representative = c.resolveNotes resolver' f.representative := by
      unfold resolve resolveNotes
      cases hknown : c.answer? f.representative with
      | some known => exact ⟨rfl, rfl⟩
      | none =>
        obtain ⟨hanswer, hremarks⟩ := h _ (mem_calls_register hwants hknown)
        rw [hanswer, hremarks]
        exact ⟨rfl, rfl⟩
    simp only [register, hresolve.1, hresolve.2]
  · unfold register
    rw [if_pos (by simpa using hwants), if_pos (by simpa using hwants)]

end NamespaceCache

namespace Intake

/-- A folder is registered when it is taken in, unless it is excluded. -/
theorem namespaces_of_add (h : add resolver f s = .ok () s') :
    s'.namespaces = if f.isExcluded then s.namespaces else (s.namespaces.register resolver f).1 := by
  by_cases hex : f.isExcluded = true
  · rw [add_of_isExcluded hex] at h
    rw [if_pos hex]
    cases h
    rfl
  · rw [add_of_not_isExcluded (eq_false_of_ne_true hex)] at h
    rw [if_neg hex]
    cases hregister : Accumulator.register s.accumulator f with
    | error e =>
      rw [hregister] at h
      cases h
    | ok accumulator =>
      rw [hregister] at h
      cases h
      rfl

theorem calls_subset_add (h : add resolver f s = .ok () s') : s.namespaces.calls ⊆ s'.namespaces.calls := by
  rw [namespaces_of_add h]
  split
  · exact List.Subset.refl _
  · exact s.namespaces.calls_subset_register resolver f

/-- **Taking in one folder** is the same with a resolver that answers alike. -/
theorem add_congr (h : add resolver f s = .ok () s') (halike : resolver.AlikeOn resolver' s'.namespaces.calls) :
    add resolver' f s = .ok () s' := by
  rw [← h]
  by_cases hex : f.isExcluded = true
  · rw [add_of_isExcluded hex, add_of_isExcluded hex]
  · rw [namespaces_of_add h, if_neg hex] at halike
    have hdeclared : f.isExcluded = false := eq_false_of_ne_true hex
    rw [add_of_not_isExcluded hdeclared, add_of_not_isExcluded hdeclared, NamespaceCache.register_congr halike]

/-- **Taking in all folders** is the same with a resolver that answers alike about what has been asked in the end. -/
theorem forM_add_congr (h : folders.forM (add resolver) s = .ok () s') :
    s.namespaces.calls ⊆ s'.namespaces.calls ∧
      (resolver.AlikeOn resolver' s'.namespaces.calls → folders.forM (add resolver') s = .ok () s') := by
  induction folders generalizing s with
  | nil =>
    cases h
    exact ⟨List.Subset.refl _, fun _ => rfl⟩
  | cons f rest ih =>
    cases hadd : add resolver f s with
    | error e s₁ =>
      rw [forM_cons_error hadd] at h
      exact absurd h nofun
    | ok _ s₁ =>
      rw [forM_cons_ok hadd] at h
      obtain ⟨hgrow, hsame⟩ := ih h
      refine ⟨List.Subset.trans (calls_subset_add hadd) hgrow, ?_⟩
      intro halike
      rw [forM_cons_ok (add_congr hadd (halike.mono hgrow))]
      exact hsame halike

end Intake

/-- Checking comes first, and asks about nothing. -/
theorem takeIn_congr (h : takeIn resolver folders s = .ok () s')
    (halike : resolver.AlikeOn resolver' s'.namespaces.calls) : takeIn resolver' folders s = .ok () s' := by
  cases hval : validate folders with
  | error e =>
    rw [takeIn_eq_error hval] at h
    exact absurd h nofun
  | ok =>
    rw [takeIn_eq_forM hval] at h ⊢
    exact (Intake.forM_add_congr h).2 halike

/-- **Preparation is the same** with a resolver that answers alike about what is asked. -/
theorem prepare_congr (h : resolver.AlikeOn resolver' (resolverCalls resolver folders)) :
    prepare resolver' folders [] = prepare resolver folders [] := by
  cases hval : validate (sortByPath folders) with
  | error e => rw [prepare, prepare, takeIn_eq_error hval, takeIn_eq_error hval]
  | ok =>
    have hi : Independent (declaredFolders folders) := independent_sortByPath_iff.1 (validate_eq_ok_iff.1 hval)
    obtain ⟨notes, htaken⟩ := takeIn_eq_ok resolver hi []
    rw [resolverCalls_eq resolver hi] at h
    rw [prepare, prepare, htaken, takeIn_congr htaken h]

/-- **A pass is the same with a resolver that answers alike** about the files in the list of questions. -/
theorem runPass_congr (h : resolver.AlikeOn resolver' (resolverCalls resolver folders)) :
    runPass resolver' folders = runPass resolver folders := by
  unfold runPass
  rw [prepare_congr h]

/-! ## Each file once -/

/-- **The resolver is asked about each file once.** If the folders pass the check, a pass asks about the files of those
    that are not excluded and want a prefix, in path order and without those that are the same place as an earlier
    one; if they do not, it asks nothing. That list is all it asks: with another resolver that answers alike about
    the files in it the pass is the same to the last note. Whatever a cache is asked to do, each of its answers is the
    first one that a resolver gave about the file, also if that was none, and it has turned to a resolver as often as
    there are different files. -/
theorem pass_asks_once (resolver : Resolver) (folders : List Folder) (requests : List NamespaceCache.Request) :
    (validate folders = .ok () →
      resolverCalls resolver folders = (filesOf (declaredFolders (sortByPath folders))).eraseDups) ∧
    (∀ e, validate folders = .error e → resolverCalls resolver folders = []) ∧
    (∀ resolver', resolver.AlikeOn resolver' (resolverCalls resolver folders) →
      runPass resolver' folders = runPass resolver folders) ∧
    (∀ before r later q, requests = before ++ r :: later → r.question? = some q →
      NamespaceCache.firstAnswer? (NamespaceCache.questionsOf requests) q.file =
        some ((NamespaceCache.after before).resolve q.resolver q.file).1) ∧
    (NamespaceCache.after requests).calls = ((NamespaceCache.questionsOf requests).map (·.file)).eraseDups ∧
    (NamespaceCache.after requests).resolutions =
      ((NamespaceCache.questionsOf requests).map (·.file)).eraseDups.length := by
  refine ⟨?_, ?_, ?_, ?_, ?_, ?_⟩
  · intro hval
    rw [resolverCalls_eq resolver (validate_eq_ok_iff.1 hval)]
    exact NamespaceCache.calls_learned resolver _
  · intro e hval
    apply resolverCalls_eq_nil
    intro hi
    rw [validate_eq_ok_iff.2 hi] at hval
    exact absurd hval nofun
  · intro resolver' halike
    exact runPass_congr halike
  · rintro before r later q rfl hq
    exact NamespaceCache.firstAnswer?_of_request hq
  · exact NamespaceCache.calls_after requests
  · rw [← NamespaceCache.calls_after]
    unfold NamespaceCache.resolutions NamespaceCache.calls
    rw [List.length_map]

/-- Folders out of order: two with one file, which they spell differently, one without a prefix and an excluded one. -/
def sharedFile : List Folder :=
  [.ofKind .source (.ofText "src/c"),
    { Folder.ofKind .source (.ofText "src/b") with members := PathSet.empty.insert (.ofText "lib/m") },
    { Folder.ofKind .source (.ofText "src/a") with members := PathSet.empty.insert (.ofText "lib//m") },
    (Folder.ofKind .test (.ofText "tests")).withoutPrefix, .ofKind .exclude (.ofText "src/c/out")]

theorem pass_asks_once_sharedFile :
    validate sharedFile = .ok () ∧
      (resolverCalls .directory sharedFile).map (·.text) = ["lib//m", "src/c/notfound"] := by
  have hi : Independent (declaredFolders sharedFile) := independent_of_not_prefix (by decide)
  have hval : validate sharedFile = .ok () := validate_eq_ok_iff.2 hi
  refine ⟨hval, ?_⟩
  rw [(pass_asks_once .directory sharedFile []).1 hval, sortByPath_eq_insertionSort]
  decide +kernel

end RootFold
