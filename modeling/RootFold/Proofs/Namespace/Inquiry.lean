import RootFold.Proofs.Namespace.Placement
import Mathlib.Data.List.Induction

/-!
# `RootFold.Proofs.Namespace.Inquiry` — a cache asks about each file once

A cache is asked for the namespace of a file, or told to take note of a folder, and every request comes with its own
resolver. Nothing is assumed about these: a resolver that answers differently at different times is a different one
in each request. Two things are kept. The cache remembers the first answer about a file, whether or not it was a
namespace; and it has asked about each file once, under the spelling that came first.

## Contents
- **Requests.** `Request` and the `Question` it raises; `NamespaceCache.perform` and `NamespaceCache.after`.
- **Answers.** `firstAnswer?`; one question is `answer?_resolve`, one request `answer?_perform`, and all requests are
  `answer?_after` and `firstAnswer?_of_request`.
- **Questions.** `eraseDups_concat`; `calls_resolve`, `calls_perform`, and all requests, `calls_after`.
-/

namespace RootFold

/-! ## Requests -/

namespace NamespaceCache

/-- **A question for a resolver.** -/
structure Question where
  resolver : Resolver
  file : Path

/-- What the resolver answers. -/
def Question.answer (q : Question) : Option Path := q.resolver.resolve q.file

/-- **What a cache is asked to do,** with a resolver to turn to. -/
inductive Request where
  /-- Give the namespace of a file. -/
  | resolve (resolver : Resolver) (file : Path)
  /-- Take note of a folder. -/
  | register (resolver : Resolver) (folder : Folder)

/-- The question that a request raises. A folder that wants no prefix raises none. -/
def Request.question? : Request → Option Question
  | resolve resolver file => some ⟨resolver, file⟩
  | register resolver folder =>
    if folder.wantsNamespacePrefix then some ⟨resolver, folder.representative⟩ else none

/-- The questions that are raised by some requests, in order. -/
def questionsOf (requests : List Request) : List Question := requests.filterMap Request.question?

/-- What a request leaves. -/
def perform (c : NamespaceCache) : Request → NamespaceCache
  | .resolve resolver file => (c.resolve resolver file).2
  | .register resolver folder => (c.register resolver folder).1

/-- **A new cache after some requests.** -/
def after (requests : List Request) : NamespaceCache := requests.foldl perform .empty

theorem questionsOf_concat (requests : List Request) (r : Request) :
    questionsOf (requests ++ [r]) = questionsOf requests ++ r.question?.toList := by
  unfold questionsOf
  rw [List.filterMap_append]
  cases h : r.question? <;> simp [h]

theorem after_concat (requests : List Request) (r : Request) :
    after (requests ++ [r]) = (after requests).perform r := by
  unfold after
  rw [List.foldl_append, List.foldl_cons, List.foldl_nil]

/-! ## Answers -/

variable {c : NamespaceCache} {questions : List Question} {file file' : Path}

/-- **The first answer about a file** when some questions are asked one after the other. -/
def firstAnswer? (questions : List Question) (file : Path) : Option (Option Path) :=
  (questions.find? (·.file == file)).map Question.answer

theorem firstAnswer?_append (questions later : List Question) (file : Path) :
    firstAnswer? (questions ++ later) file = (firstAnswer? questions file).or (firstAnswer? later file) := by
  unfold firstAnswer?
  rw [List.find?_append, Option.map_or]

theorem firstAnswer?_singleton (q : Question) (file : Path) :
    firstAnswer? [q] file = if q.file == file then some q.answer else none := by
  unfold firstAnswer?
  rw [List.find?_singleton]
  split <;> rfl

theorem isSome_firstAnswer? (questions : List Question) (file : Path) :
    (firstAnswer? questions file).isSome = (questions.map (·.file)).contains file := by
  unfold firstAnswer?
  rw [Option.isSome_map, isSome_find?_place]

theorem answer?_congr (h : (file == file') = true) : c.answer? file = c.answer? file' := by
  unfold answer?
  rw [find?_place_congr Prod.fst h]

/-- The answer that is given is remembered. -/
theorem answer?_resolve_self (c : NamespaceCache) (resolver : Resolver) (file : Path) :
    (c.resolve resolver file).2.answer? file = some (c.resolve resolver file).1 := by
  unfold resolve
  cases hknown : c.answer? file with
  | some known => exact hknown
  | none =>
    unfold answer? at hknown ⊢
    rw [List.find?_append, Option.map_or, hknown, List.find?_singleton, if_pos BEq.rfl]
    rfl

/-- **One question** adds an answer behind those that are remembered. -/
theorem answer?_resolve (c : NamespaceCache) (q : Question) (file : Path) :
    (c.resolve q.resolver q.file).2.answer? file = (c.answer? file).or (firstAnswer? [q] file) := by
  rw [firstAnswer?_singleton]
  unfold resolve
  cases hknown : c.answer? q.file with
  | some known =>
    -- the file was asked about before, so nothing is added
    by_cases hsame : (q.file == file) = true
    · rw [← answer?_congr hsame, hknown, Option.some_or]
    · rw [if_neg hsame, Option.or_none]
  | none =>
    unfold answer?
    rw [List.find?_append, Option.map_or, List.find?_singleton]
    split <;> rfl

/-- **One request** leaves the answers that the question it raises leaves. -/
theorem answers_perform (c : NamespaceCache) (r : Request) :
    (c.perform r).answers = r.question?.elim c.answers fun q => (c.resolve q.resolver q.file).2.answers := by
  cases r with
  | resolve resolver file => rfl
  | register resolver folder =>
    simp only [Request.question?, perform]
    cases hwants : folder.wantsNamespacePrefix with
    | false =>
      rw [register_of_not_wants hwants]
      rfl
    | true =>
      cases hres : c.resolve resolver folder.representative with
      | mk answer c' =>
        simp only [if_true, Option.elim_some, hres]
        cases answer with
        | none => rw [register_of_no_namespace hwants hres]
        | some ns =>
          rw [register_of_resolve hwants hres]
          rfl

theorem answer?_perform (c : NamespaceCache) (r : Request) (file : Path) :
    (c.perform r).answer? file = (c.answer? file).or (firstAnswer? r.question?.toList file) := by
  have hanswers := answers_perform c r
  cases hq : r.question? with
  | none =>
    rw [hq, Option.elim_none] at hanswers
    show ((c.perform r).answers.find? (·.1 == file)).map (·.2) = (c.answer? file).or none
    rw [hanswers, Option.or_none]
    rfl
  | some q =>
    rw [hq, Option.elim_some] at hanswers
    show ((c.perform r).answers.find? (·.1 == file)).map (·.2) = (c.answer? file).or (firstAnswer? [q] file)
    rw [hanswers, ← answer?_resolve]
    rfl

/-- **After any requests** a cache remembers the first answer about each file. -/
theorem answer?_after (requests : List Request) (file : Path) :
    (after requests).answer? file = firstAnswer? (questionsOf requests) file := by
  induction requests using List.reverseRecOn with
  | nil => rfl
  | append_singleton requests r ih =>
    rw [after_concat, answer?_perform, ih, questionsOf_concat, firstAnswer?_append]

/-- **Every answer is the first one about its file,** of all that are asked for before it or after it. -/
theorem firstAnswer?_of_request {before later : List Request} {r : Request} {q : Question}
    (h : r.question? = some q) :
    firstAnswer? (questionsOf (before ++ r :: later)) q.file = some ((after before).resolve q.resolver q.file).1 := by
  have hquestions : questionsOf (before ++ r :: later) = questionsOf before ++ ([q] ++ questionsOf later) := by
    unfold questionsOf
    rw [List.filterMap_append, List.filterMap_cons, h, List.singleton_append]
  have hanswer := answer?_resolve (after before) q q.file
  rw [answer?_resolve_self, answer?_after] at hanswer
  rw [hquestions, firstAnswer?_append, firstAnswer?_append, ← Option.or_assoc, ← hanswer, Option.some_or]

end NamespaceCache

/-! ## Questions -/

/-- One more element at the end is dropped if it is the same as an earlier one. -/
theorem eraseDups_concat {α : Type} [BEq α] [EquivBEq α] (l : List α) (a : α) :
    (l ++ [a]).eraseDups = if l.contains a then l.eraseDups else l.eraseDups ++ [a] := by
  cases l with
  | nil => simp [List.eraseDups_cons]
  | cons b rest =>
    rw [List.cons_append, List.eraseDups_cons, List.eraseDups_cons, List.filter_append, List.contains_cons]
    by_cases hab : (a == b) = true
    · have hgone : [a].filter (fun x => !x == b) = [] := by simp [hab]
      rw [hgone, List.append_nil, hab, Bool.true_or, if_pos rfl]
    · have hstays : [a].filter (fun x => !x == b) = [a] := by simp [hab]
      -- what is left of the list has `a` exactly when the list has it, since `a` is not dropped with `b`
      have hcontains : (rest.filter fun x => !x == b).contains a = rest.contains a := by
        rw [Bool.eq_iff_iff, List.contains_iff_exists_mem_beq, List.contains_iff_exists_mem_beq]
        constructor
        · rintro ⟨x, hx, hax⟩
          exact ⟨x, (List.mem_filter.1 hx).1, hax⟩
        · rintro ⟨x, hx, hax⟩
          have hxb : ¬ (x == b) = true := fun h => hab (BEq.trans hax h)
          exact ⟨x, List.mem_filter.2 ⟨hx, by simpa using hxb⟩, hax⟩
      rw [hstays, eraseDups_concat, hcontains, eq_false_of_ne_true hab, Bool.false_or]
      split <;> rfl
termination_by l.length
decreasing_by exact Nat.lt_succ_of_le (List.length_filter_le _ _)

namespace NamespaceCache

/-- A file has an answer if it was asked about. -/
theorem isSome_answer? (c : NamespaceCache) (file : Path) : (c.answer? file).isSome = c.calls.contains file := by
  unfold answer? calls
  rw [Option.isSome_map, isSome_find?_place]

/-- **One question** is passed on unless the file was asked about before. -/
theorem calls_resolve (c : NamespaceCache) (resolver : Resolver) (file : Path) :
    (c.resolve resolver file).2.calls = if c.calls.contains file then c.calls else c.calls ++ [file] := by
  unfold resolve
  rw [← isSome_answer?]
  cases c.answer? file with
  | some known => rfl
  | none => exact List.map_append

/-- **One request** passes on the question it raises, if any. -/
theorem calls_perform (c : NamespaceCache) (r : Request) :
    (c.perform r).calls =
      r.question?.elim c.calls fun q => if c.calls.contains q.file then c.calls else c.calls ++ [q.file] := by
  unfold calls
  rw [answers_perform]
  cases r.question? with
  | none => rfl
  | some q => exact calls_resolve c q.resolver q.file

/-- **After any requests** a cache has asked about the files in question, about each of them once. -/
theorem calls_after (requests : List Request) :
    (after requests).calls = ((questionsOf requests).map (·.file)).eraseDups := by
  induction requests using List.reverseRecOn with
  | nil => rfl
  | append_singleton requests r ih =>
    rw [after_concat, calls_perform, questionsOf_concat, List.map_append]
    cases r.question? with
    | none => simpa using ih
    | some q =>
      -- a file is among those that were asked about when it is among those in question
      have hsame : ((questionsOf requests).map (·.file)).eraseDups.contains q.file =
          ((questionsOf requests).map (·.file)).contains q.file := by
        rw [← ih, ← isSome_answer?, answer?_after, isSome_firstAnswer?]
      rw [Option.elim_some, Option.toList_some, List.map_singleton, eraseDups_concat, ih, hsame]

end NamespaceCache

end RootFold
