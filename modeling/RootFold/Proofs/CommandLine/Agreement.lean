import RootFold.CommandLine.Run
import RootFold.Proofs.Pass.Acceptance

/-!
# `RootFold.Proofs.CommandLine.Agreement` — what is found to be valid can be simplified

The check of a manifest and its simplification take different routes. The check looks at every scan pattern by
itself, collects the folders only when all patterns are well formed, and tests them in the manifest's order; the
simplification stops at the first entry that fails, sorts the folders, tests them and then goes through the whole
pass. Both succeed on the same manifests: those that can be read, whose folders can be collected, and whose
declared folders are independent.

## Contents
- **Ends.** `CommandM.Returns` and `CommandM.Fails`, with a rule for each way in which commands are put together.
- **Patterns.** `badPatterns_eq_nil_of_toFolders`: folders that can be collected have well-formed patterns only.
- **Manifests.** `Acceptable` requests; `simplifyCommand_ends`, `checkCommand_ends`.
- **Runs.** `check_succeeds_iff_simplify_succeeds`.
-/

namespace RootFold.CommandLine

variable {α β : Type}

/-! ## Ends -/

namespace CommandM

/-- **A command returns a value,** whatever was printed and noted before. -/
def Returns (x : CommandM α) (a : α) : Prop := ∀ t, ∃ t', x t = .ok a t'

/-- **A command fails,** whatever was printed and noted before. -/
def Fails (x : CommandM α) : Prop := ∀ t, ∃ e t', x t = .error e t'

variable {x : CommandM α} {f : α → CommandM β} {a : α} {b : β}

theorem returns_pure (a : α) : Returns (pure a) a := fun t => ⟨t, rfl⟩

theorem fails_throw (e : Failure) : Fails (throw e : CommandM α) := fun t => ⟨e, t, rfl⟩

/-- What comes after a command that returns decides. -/
theorem Returns.bind (hx : Returns x a) (hf : Returns (f a) b) : Returns (x >>= f) b := by
  intro t
  obtain ⟨t', ht'⟩ := hx t
  rw [bind_ok ht']
  exact hf t'

theorem Fails.after (hx : Returns x a) (hf : Fails (f a)) : Fails (x >>= f) := by
  intro t
  obtain ⟨t', ht'⟩ := hx t
  rw [bind_ok ht']
  exact hf t'

/-- Nothing comes after a command that fails. -/
theorem Fails.bind (hx : Fails x) (f : α → CommandM β) : Fails (x >>= f) := by
  intro t
  obtain ⟨e, t', ht'⟩ := hx t
  exact ⟨e, t', bind_error ht' f⟩

theorem returns_print (text : String) : Returns (print text) () := fun _ => ⟨_, rfl⟩

theorem returns_printLine (text : String) : Returns (printLine text) () := returns_print _

theorem returns_note (notes : List Note) : Returns (note notes) () := fun _ => ⟨_, rfl⟩

theorem returns_noting (result : Except Error α × List Note) : Returns (noting result) result.1 :=
  (returns_note _).bind (returns_pure _)

theorem returns_orFail (summary : String) (a : α) : Returns (orFail summary (.ok a)) a := returns_pure a

theorem fails_orFail (summary : String) (e : Error) : Fails (orFail summary (.error e) : CommandM α) := fails_throw _

/-- A loop that prints a line in each round goes through all its rounds. -/
theorem returns_forIn (l : List α) (line : α → String) :
    Returns (forIn l PUnit.unit fun a _ => do printLine (line a); pure (.yield PUnit.unit)) PUnit.unit := by
  induction l with
  | nil => exact returns_pure _
  | cons a rest ih =>
    rw [List.forIn_cons]
    have hround : Returns (printLine (line a) >>= fun _ => pure (ForInStep.yield PUnit.unit)) (.yield PUnit.unit) :=
      (returns_printLine _).bind (returns_pure _)
    exact hround.bind ih

end CommandM

open CommandM

/-! ## Patterns -/

/-- What was done for all elements of a list was done for each. -/
theorem exists_of_mapM_eq_ok {ε σ : Type} {f : α → EStateM ε σ β} {l : List α} {bs : List β} {s s' : σ}
    (h : l.mapM f s = .ok bs s') : ∀ a ∈ l, ∃ s₁ b s₂, f a s₁ = .ok b s₂ := by
  induction l generalizing s s' bs with
  | nil => simp
  | cons a rest ih =>
    rw [List.mapM_cons] at h
    cases ha : f a s with
    | error e s₁ =>
      rw [bind_error ha] at h
      exact absurd h (by simp)
    | ok b s₁ =>
      rw [bind_ok ha] at h
      cases hrest : rest.mapM f s₁ with
      | error e s₂ =>
        rw [bind_error hrest] at h
        exact absurd h (by simp)
      | ok others s₂ => exact List.forall_mem_cons.2 ⟨⟨s, b, s₁, ha⟩, ih hrest⟩

/-- A folder is scanned by a well-formed pattern only. -/
theorem exists_pattern_of_toFolder {files : FileSystem} {root : Path} {e : FolderEntry} {text : String} {folder : Folder}
    {notes notes' : List Note} (hscan : e.scan = some text) (h : e.toFolder files root notes = .ok folder notes') :
    ∃ pattern, Glob.Pattern.read text = .ok pattern := by
  cases hread : Glob.Pattern.read text with
  | ok pattern => exact ⟨pattern, rfl⟩
  | error fault =>
    have hfail : scanMembers files root e.path text notes = .error (.glob fault) notes := by
      rw [scanMembers, hread]
      rfl
    rw [FolderEntry.toFolder, hscan] at h
    exact absurd ((bind_error hfail _).symm.trans h) (by simp)

/-- **Folders that can be collected** have well-formed patterns only. -/
theorem badPatterns_eq_nil_of_toFolders {files : FileSystem} {root : Path} {manifest : Manifest} {folders : List Folder}
    (h : (manifest.toFolders files root).notes.1 = .ok folders) : badPatterns manifest = [] := by
  have hall : ∃ notes, manifest.folders.mapM (FolderEntry.toFolder files root) [] = .ok folders notes := by
    rw [Manifest.toFolders, NotingM.notes] at h
    split at h
    · next found notes heq =>
      obtain rfl : found = folders := Except.ok.inj h
      exact ⟨notes, heq⟩
    · exact absurd h (by simp)
  obtain ⟨notes, hall⟩ := hall
  refine List.filterMap_eq_nil_iff.2 fun ⟨entry, index⟩ hmem => ?_
  obtain ⟨s₁, folder, s₂, hentry⟩ := exists_of_mapM_eq_ok hall entry (List.fst_mem_of_mem_zipIdx hmem)
  cases hscan : entry.scan with
  | none => simp only [hscan, Option.map_none]
  | some text =>
    obtain ⟨pattern, hread⟩ := exists_pattern_of_toFolder hscan hentry
    simp only [hscan, Option.map_some, hread]

/-! ## Manifests -/

/-- **A request whose folders can be collected:** the manifest is read, and so are the files of its entries. -/
structure Collects (files : FileSystem) (request : Request) (manifest : Manifest) (folders : List Folder) : Prop where
  read : Manifest.ofFile files request.manifest = .ok manifest
  collected : (manifest.toFolders files request.projectRoot).notes.1 = .ok folders

/-- **A request with acceptable folders:** they can be collected, and the declared ones are independent. -/
def Acceptable (files : FileSystem) (request : Request) : Prop :=
  ∃ manifest folders, Collects files request manifest folders ∧ Independent (declaredFolders folders)

/-- **How a command ends:** it succeeds under a condition, and fails otherwise. -/
structure SucceedsIf (x : CommandM Unit) (condition : Prop) : Prop where
  returns : condition → Returns x ()
  fails : ¬ condition → Fails x

variable {s : Setting} {manifest : Manifest} {folders : List Folder}

theorem returns_loadFolders (h : Collects s.files s.request manifest folders) :
    Returns (loadFolders s) (manifest, folders) := by
  refine .bind (h.read ▸ returns_orFail _ manifest) (.bind (returns_noting _) ?_)
  exact .bind (h.collected ▸ returns_orFail _ folders) (returns_pure _)

theorem fails_loadFolders (h : ¬ ∃ manifest folders, Collects s.files s.request manifest folders) :
    Fails (loadFolders s) := by
  rw [loadFolders]
  cases hmanifest : Manifest.ofFile s.files s.request.manifest with
  | error e => exact (fails_orFail _ e).bind _
  | ok manifest =>
    refine .after (returns_orFail _ manifest) (.after (returns_noting _) ?_)
    cases hfolders : (manifest.toFolders s.files s.request.projectRoot).notes.1 with
    | error e => exact (fails_orFail _ e).bind _
    | ok folders => exact absurd ⟨manifest, folders, hmanifest, hfolders⟩ h

/-- **The simplification** succeeds on acceptable folders, whatever resolver and format were chosen. -/
theorem simplifyCommand_ends (s : Setting) (resolver : ResolverChoice) (format : OutputFormat) :
    SucceedsIf (simplifyCommand s resolver format) (Acceptable s.files s.request) where
  returns := by
    rintro ⟨manifest, folders, hcollects, hi⟩
    obtain ⟨acc, hsimplify, -⟩ := exists_simplify (resolverFor s manifest resolver) hi
    refine (returns_loadFolders hcollects).bind (.bind (returns_noting _) ?_)
    refine .bind (hsimplify ▸ returns_orFail _ _) (.bind (returns_note _) (returns_print _))
  fails h := by
    by_cases hcollects : ∃ manifest folders, Collects s.files s.request manifest folders
    · obtain ⟨manifest, folders, hcollects⟩ := hcollects
      have hi : ¬ Independent (declaredFolders folders) := fun hi => h ⟨manifest, folders, hcollects, hi⟩
      refine .after (returns_loadFolders hcollects) (.after (returns_noting _) ?_)
      cases hsimplify : (runPass (resolverFor s manifest resolver) folders).1 with
      | error e => exact (fails_orFail _ e).bind _
      | ok out => exact absurd (independent_of_simplify hsimplify) hi
    · exact (fails_loadFolders hcollects).bind _

/-- The folders of a manifest pass the check when they can be collected and are independent. -/
theorem checkFolders_eq_ok_iff : (checkFolders s manifest).notes.1 = .ok () ↔
    ∃ folders, (manifest.toFolders s.files s.request.projectRoot).notes.1 = .ok folders ∧
      Independent (declaredFolders folders) := by
  rw [NotingM.notes, NotingM.notes, checkFolders]
  cases hall : manifest.toFolders s.files s.request.projectRoot [] with
  | error e notes =>
    rw [bind_error hall]
    simp
  | ok folders notes =>
    rw [bind_ok hall]
    simp only [Except.ok.injEq, exists_eq_left', ← validate_eq_ok_iff]
    cases validate folders with
    | ok => exact ⟨fun _ => rfl, fun _ => rfl⟩
    | error e => exact ⟨fun h => absurd h nofun, fun h => absurd h nofun⟩

/-- **The report on the folders of a manifest** is good exactly when the simplification would accept them. -/
theorem exists_reportFolders (s : Setting) (manifest : Manifest) :
    ∃ good, Returns (reportFolders s manifest) good ∧
      (good = true ↔ ∃ folders, (manifest.toFolders s.files s.request.projectRoot).notes.1 = .ok folders ∧
        Independent (declaredFolders folders)) := by
  cases hbad : badPatterns manifest with
  | nil =>
    rw [reportFolders, hbad, ← checkFolders_eq_ok_iff]
    cases hcheck : (checkFolders s manifest).notes.1 with
    | ok => exact ⟨true, (hcheck ▸ returns_noting _).bind ((returns_printLine _).bind (returns_pure _)), by simp⟩
    | error e => exact ⟨false, (hcheck ▸ returns_noting _).bind ((returns_printLine _).bind (returns_pure _)), by simp⟩
  | cons bad others =>
    -- a pattern that is reported here stops the simplification when it is reached
    rw [reportFolders, hbad]
    refine ⟨false, (returns_forIn _ _).bind (returns_pure _), fun h => absurd h (by simp), ?_⟩
    rintro ⟨folders, hfolders, -⟩
    exact absurd (hbad.symm.trans (badPatterns_eq_nil_of_toFolders hfolders)) (by simp)

/-- The summary is printed. -/
theorem returns_printSummary (style : Style) (manifest : Manifest) : Returns (printSummary style manifest) () :=
  .bind (returns_printLine _) <| .bind (returns_printLine _) <| .bind (returns_printLine _) <|
    .bind (returns_printLine _) (returns_printLine _)

/-- **The check** succeeds on acceptable folders. -/
theorem checkCommand_ends (s : Setting) : SucceedsIf (checkCommand s) (Acceptable s.files s.request) := by
  cases hread : Manifest.ofFile s.files s.request.manifest with
  | error e =>
    have hfails : Fails (checkCommand s) := by
      rw [checkCommand, hread]
      exact .after (returns_printLine _) (.after (returns_printLine _) (fails_throw _))
    refine ⟨?_, fun _ => hfails⟩
    rintro ⟨manifest, folders, hcollects, -⟩
    exact absurd (hread.symm.trans hcollects.read) (by simp)
  | ok manifest =>
    obtain ⟨good, hreport, hgood⟩ := exists_reportFolders s manifest
    have hacceptable : Acceptable s.files s.request ↔ good = true := by
      rw [hgood]
      constructor
      · rintro ⟨manifest', folders, hcollects, hi⟩
        obtain rfl : manifest = manifest' := Except.ok.inj (hread.symm.trans hcollects.read)
        exact ⟨folders, hcollects.collected, hi⟩
      · rintro ⟨folders, hfolders, hi⟩
        exact ⟨manifest, folders, ⟨hread, hfolders⟩, hi⟩
    rw [hacceptable, checkCommand, hread]
    refine ⟨fun hg => ?_, fun hg => ?_⟩
    · subst hg
      exact .bind (returns_printLine _) <| .bind (returns_printLine _) <| .bind (returns_printSummary _ _) <|
        .bind hreport <| .bind (returns_printLine _) (returns_printLine _)
    · obtain rfl : good = false := by simpa using hg
      exact .after (returns_printLine _) <| .after (returns_printLine _) <| .after (returns_printSummary _ _) <|
        .after hreport <| .after (returns_printLine _) <| .after (returns_printLine _) (fails_throw _)

/-! ## Runs -/

/-- The code of a request says how its command ends. -/
theorem perform_code_eq_zero_iff {request : Request} {env : Environment} {files : FileSystem} {condition : Prop}
    (h : ∀ style, SucceedsIf (commandOf ⟨files, style, request⟩) condition) :
    (perform request env files).code = 0 ↔ condition := by
  have hends := h (.choose request.colour env)
  rw [perform]
  by_cases hc : condition
  · obtain ⟨t, ht⟩ := hends.returns hc {}
    simp only [ht, hc]
  · obtain ⟨e, t, ht⟩ := hends.fails hc {}
    simp only [ht, hc, Nat.one_ne_zero]

/-- **A check succeeds exactly when the simplification does,** on the same manifest and root, whatever resolver and
    format the simplification uses and however either run writes its log and colours its output. -/
theorem check_succeeds_iff_simplify_succeeds {checking simplifying : List String} {asked asked' : Request}
    {resolver : ResolverChoice} {format : OutputFormat} (files : FileSystem) (env env' : Environment)
    (hasked : Request.read checking = .ok asked) (hasked' : Request.read simplifying = .ok asked')
    (haction : asked.action = .check) (haction' : asked'.action = .simplify resolver format)
    (hmanifest : asked'.manifest = asked.manifest) (hroot : asked'.root = asked.root) :
    (run checking env files).code = 0 ↔ (run simplifying env' files).code = 0 := by
  have hroot' : asked'.projectRoot = asked.projectRoot := by
    rw [Request.projectRoot, Request.projectRoot, hmanifest, hroot]
  have hsame : Acceptable files asked' ↔ Acceptable files asked := by
    constructor
    · rintro ⟨manifest, folders, ⟨hread, hcollected⟩, hi⟩
      exact ⟨manifest, folders, ⟨hmanifest ▸ hread, hroot' ▸ hcollected⟩, hi⟩
    · rintro ⟨manifest, folders, ⟨hread, hcollected⟩, hi⟩
      exact ⟨manifest, folders, ⟨hmanifest ▸ hread, hroot' ▸ hcollected⟩, hi⟩
  have hcheck : (run checking env files).code = 0 ↔ Acceptable files asked := by
    rw [run, hasked]
    refine perform_code_eq_zero_iff fun style => ?_
    rw [commandOf, haction]
    exact checkCommand_ends _
  have hsimplify : (run simplifying env' files).code = 0 ↔ Acceptable files asked' := by
    rw [run, hasked']
    refine perform_code_eq_zero_iff fun style => ?_
    rw [commandOf, haction']
    exact simplifyCommand_ends _ resolver format
  rw [hcheck, hsimplify, hsame]

/-- A manifest that is checked with the defaults and simplified with all options. -/
theorem check_succeeds_iff_simplify_succeeds_oneSource :
    let files : FileSystem :=
      ⟨.directory [("folders.yaml", .file "folders:\n- path: src\n  kind: source\n".toUTF8)], []⟩
    (run ["check"] ⟨[]⟩ files).code = 0 ↔
      (run ["--log-level", "debug", "simplify", "-m", "folders.yaml", "--resolver=source", "--format", "json"]
        ⟨[("NO_COLOR", "1")]⟩ files).code = 0 := by
  have hasked : Request.read ["check"] = .ok ⟨.check, .ofText "folders.yaml", none, "auto", none⟩ := rfl
  have hasked' : Request.read
      ["--log-level", "debug", "simplify", "-m", "folders.yaml", "--resolver=source", "--format", "json"] =
      .ok ⟨.simplify .source .json, .ofText "folders.yaml", none, "auto", some "debug"⟩ := rfl
  exact check_succeeds_iff_simplify_succeeds _ _ _ hasked hasked' rfl rfl rfl rfl

end RootFold.CommandLine
