import RootFold.Proofs.Namespace.Teaching

/-!
# `RootFold.Proofs.Pass.PackageLayout` — how packages lie below a merged directory

Namespaces follow the directories in the number of steps. The test counts the steps that it takes off a namespace and
does not read them; only the upward spread of an answer compares names. So the folders that a merged directory
absorbed lie in packages below one common namespace, each as deep as its directory is, and directories share packages
as they share directories above them. But the steps need not be the names of the directories: two folders side by side
merge although one of them is in a package of another name.

## Contents
- **One directory.** `PackageOf`, found by `TaughtBy.packageOf`.
- **The layout.** `exists_packages_of_merged`.
- **Names.** `NamedBelow` is too much to ask for, `not_namedBelow_strayPackage`.
-/

namespace RootFold

variable {ns : NamespaceCache} {resolver : Resolver} {declared merged folders : List Folder} {o f p : Folder}
  {q x : Path}

/-! ## One directory -/

/-- **A directory's package:** all folders at or under the directory are in packages of it, as many steps further in as
    the folders are further down; and the steps of one of them are the names of the directories. -/
structure PackageOf (resolver : Resolver) (declared : List Folder) (x package : Path) : Prop where
  answers : ∀ f ∈ declared, x.Covers f.path → ∃ (answer : Path) (names steps : List Component),
    f.path.components = x.components ++ names ∧ resolver.resolve f.representative = some answer ∧
    answer.components = package.components ++ steps ∧ steps.length = names.length
  named : ∃ f ∈ declared, ∃ (answer : Path) (words : List String),
    f.path.components = x.components ++ words.map .name ∧ resolver.resolve f.representative = some answer ∧
    answer.components = package.components ++ words.map .name

/-- **What is known about a directory** below which namespaces follow the directories is its package. -/
theorem NamespaceCache.TaughtBy.packageOf (h : ns.TaughtBy resolver declared)
    (hmembers : ∀ f ∈ declared, f.members.toList = []) (hal : Aligned ns declared x)
    (hwants : ∀ f ∈ declared, x.Covers f.path → f.wantsNamespacePrefix = true) (hx : Occupied declared x)
    {package : Path} (hlookup : ns.lookup x = some package) : PackageOf resolver declared x package where
  answers f hf hxf := by
    obtain ⟨l, names, steps, hl, hnames, hsteps, hlen⟩ :=
      hal.exists_lookup hlookup hf (hwants f hf hxf) hxf (.refl _)
    obtain ⟨answer, hres, hanswer⟩ := h.answer_of_lookup hf (hmembers f hf) hl
    exact ⟨answer, names, steps, hnames, hres, hanswer.trans hsteps, hlen⟩
  named := by
    obtain ⟨d, hd, hxd⟩ := hx
    obtain ⟨f, hf, -, hteaches⟩ := h.exists_teacher hlookup hd hxd
    obtain ⟨answer, words, last, hres, hfile, hanswer⟩ := hteaches.names
    rw [Folder.components_representative (hmembers f hf)] at hfile
    exact ⟨f, hf, answer, words, List.append_inj_left' hfile rfl, hres, hanswer⟩

/-! ## The layout -/

/-- **The layout of packages.** Below a folder of the result that wants a prefix and has absorbed another one, and if
    no folder has members: there is one namespace, not empty, which is the package of the folder's directory. Every
    directory from there down to a declared folder has its own package, as many steps below this namespace as the
    directory is below the folder's. -/
theorem exists_packages_of_merged (hmembers : ∀ f ∈ declaredFolders folders, f.members.toList = []) {out : Simplified}
    (h : simplify resolver folders = .ok out) (ho : o ∈ out.merged) (hwants : o.wantsNamespacePrefix = true)
    (hp : p ∈ declaredFolders folders) (hop : o.path.Covers p.path) (hne : ¬ (o.path == p.path) = true) :
    ∃ m : Path, m.components ≠ [] ∧ PackageOf resolver (declaredFolders folders) o.path m ∧
      ∀ x : Path, o.path.Covers x → Occupied (declaredFolders folders) x →
        ∃ (package : Path) (names steps : List Component), PackageOf resolver (declaredFolders folders) x package ∧
          x.components = o.path.components ++ names ∧ package.components = m.components ++ steps ∧
          steps.length = names.length := by
  have hcond := condensed_of_simplify h
  have hcol := (hcond.topmost o ho).collapsible
  have htaught := NamespaceCache.taughtBy_namespacesOf resolver (independent_of_simplify h) fun f hf _ =>
    Folder.housed_of_no_members (hmembers f hf)
  have hall : ∀ f ∈ declaredFolders folders, o.path.Covers f.path → f.wantsNamespacePrefix = true := fun f hf hof =>
    (((hcond.represents o ho).agrees f hf hof).2).trans hwants
  have hpackage : ∀ {x package : Path}, o.path.Covers x → Occupied (declaredFolders folders) x →
      (namespacesOf resolver folders).lookup x = some package →
      PackageOf resolver (declaredFolders folders) x package := by
    intro x package hox hx hlookup
    exact htaught.packageOf hmembers (hcol.of_covers hox).aligned (fun f hf hxf => hall f hf (hox.trans hxf)) hx
      hlookup
  -- the step down to the absorbed folder shows that something is known about the folder's own directory
  obtain ⟨m, -, hm, -, hnonempty, -⟩ := hcol.aligned.follows hp (hall p hp hop) (.refl _) hop hne (.refl _)
  refine ⟨m, hnonempty, hpackage (.refl _) ⟨p, hp, hop⟩ hm, fun x hox hx => ?_⟩
  obtain ⟨f, hf, hxf⟩ := hx
  obtain ⟨package, names, steps, hlookup, hnames, hsteps, hlen⟩ :=
    hcol.aligned.exists_lookup hm hf (hall f hf (hox.trans hxf)) hox hxf
  exact ⟨package, names, steps, hpackage hox ⟨f, hf, hxf⟩ hlookup, hnames, hsteps, hlen⟩

/-! ## Names -/

/-- **Packages named like the directories:** every folder at or under `q` is in the namespace `m` with the names down
    to the folder behind it. -/
def NamedBelow (resolver : Resolver) (declared : List Folder) (q m : Path) : Prop :=
  ∀ f ∈ declared, q.Covers f.path → ∃ (answer : Path) (names : List Component),
    f.path.components = q.components ++ names ∧ resolver.resolve f.representative = some answer ∧
    answer.components = m.components ++ names

/-- Two folders side by side, one of them in a package that is not named like its directory. -/
def strayPackage : List Folder := [.ofKind .source (.ofText "src/left"), .ofKind .source (.ofText "src/right")]

/-- The namespaces of these folders. -/
def strayPackageTable : Resolver :=
  .mapped (.ofList [(.ofText "src/left", .ofText "app/left"), (.ofText "src/right", .ofText "app/other")])

/-- The directory above is above both folders. -/
private theorem covers_strayPackage (hsrc : (q == .ofText "src") = true) :
    ∀ f ∈ declaredFolders strayPackage, q.Covers f.path ∧ ¬ (q == f.path) = true := by
  intro f hf
  have hsteps : q.components = [.name "src"] := Path.beq_iff.1 hsrc
  rw [Path.covers_iff, Path.beq_iff, hsteps]
  exact (by decide : ∀ f ∈ declaredFolders strayPackage, ([.name "src"] <+: f.path.components ∧
    ([Component.name "src"] = [] → f.path.components = [])) ∧ ¬ [.name "src"] = f.path.components) f hf

/-- What is known once the two folders were registered: both their own namespaces, and about the directory above what
    the first one teaches, since the other one does not spread upward. -/
private theorem lookup_strayPackage {c : NamespaceCache}
    (h : c.TaughtBy strayPackageTable (declaredFolders strayPackage)) :
    (∃ u, c.lookup (.ofText "src") = some u ∧ u.components = [.name "app"]) ∧
    (∃ l, c.lookup (.ofText "src/left") = some l ∧ l.components = [.name "app", .name "left"]) ∧
    ∃ r, c.lookup (.ofText "src/right") = some r ∧ r.components = [.name "app", .name "other"] := by
  have hleft : (Folder.ofKind .source (.ofText "src/left")).Teaches strayPackageTable (.ofText "src/left")
      (.ofText "app/left") := .of_components rfl (by decide) [] (.name "notfound") (by decide) (by decide)
  have hright : (Folder.ofKind .source (.ofText "src/right")).Teaches strayPackageTable (.ofText "src/right")
      (.ofText "app/other") := .of_components rfl (by decide) [] (.name "notfound") (by decide) (by decide)
  have habove : (Folder.ofKind .source (.ofText "src/left")).Teaches strayPackageTable (.ofText "src") (.ofText "app") :=
    .of_components rfl (by decide) ["left"] (.name "notfound") (by decide) (by decide)
  have hbelow := covers_strayPackage (BEq.refl (Path.ofText "src"))
  refine ⟨?_, h.lookup_self List.mem_cons_self hleft, h.lookup_self (List.mem_cons_of_mem _ List.mem_cons_self) hright⟩
  obtain ⟨u, hu⟩ := h.complete _ List.mem_cons_self _ _ habove
  obtain ⟨f, hf, -, hteaches⟩ := h.exists_teacher hu List.mem_cons_self (hbelow _ List.mem_cons_self).1
  refine ⟨u, hu, ?_⟩
  rcases List.mem_cons.1 hf with rfl | hf
  · exact hteaches.unique habove
  · obtain rfl := List.mem_singleton.1 hf
    -- the second folder's namespace would have to end in the name of its directory
    obtain ⟨n, tail, hn, hpath, hcomponents⟩ :=
      hteaches.inward (hbelow _ (List.mem_cons_of_mem _ List.mem_cons_self)).1 (Folder.housed_of_no_members rfl)
    have htail : tail = [.name "right"] := by
      have hdrop := congrArg (List.drop 1) hpath
      exact hdrop.symm.trans (by decide)
    have hlast := congrArg List.getLast? ((hn.unique hright).symm.trans hcomponents)
    rw [htail, List.getLast?_concat] at hlast
    exact absurd hlast (by decide)

/-- The two folders are merged all the same. -/
private theorem exists_merged_strayPackage :
    ∃ out, simplify strayPackageTable strayPackage = .ok out ∧
      ∃ o ∈ out.merged, (o.path == .ofText "src") = true ∧ o.wantsNamespacePrefix = true := by
  have hi : Independent (declaredFolders strayPackage) := independent_of_not_prefix (by decide)
  obtain ⟨acc, heq, -⟩ := exists_simplify strayPackageTable hi
  have hcond := condensed_of_simplify heq
  have htaught := NamespaceCache.taughtBy_namespacesOf strayPackageTable hi fun f hf _ =>
    Folder.housed_of_no_members ((by decide : ∀ f ∈ declaredFolders strayPackage, f.members.toList = []) f hf)
  obtain ⟨⟨u, hu, hus⟩, ⟨l, hl, hls⟩, r, hr, hrs⟩ := lookup_strayPackage htaught
  have hlies : ∀ f ∈ declaredFolders strayPackage, f.path.LiesIn (.ofText "src") :=
    List.forall_mem_cons.2 ⟨Path.liesIn_iff.2 ⟨by decide, .name "left", by decide⟩,
      List.forall_mem_singleton.2 (Path.liesIn_iff.2 ⟨by decide, .name "right", by decide⟩)⟩
  have hfollows : ∀ f ∈ declaredFolders strayPackage,
      (namespacesOf strayPackageTable strayPackage).Follows (.ofText "src") f.path :=
    List.forall_mem_cons.2 ⟨⟨u, l, hu, hl, by simp [hus], [.name "left"], by simp [hus, hls], by decide⟩,
      List.forall_mem_singleton.2 ⟨u, r, hu, hr, by simp [hus], [.name "other"], by simp [hus, hrs], by decide⟩⟩
  have hsame : ∀ f ∈ declaredFolders strayPackage, f.kind = .source ∧ f.wantsNamespacePrefix = true := by decide
  have habsorbs : ∀ f ∈ declaredFolders strayPackage, Absorbs (namespacesOf strayPackageTable strayPackage)
      (.ofKind .source (.ofText "src")) f := fun f hf =>
    ⟨(hsame f hf).1.symm, (hsame f hf).2.symm, fun _ => hfollows f hf⟩
  have hcol : Collapsible (namespacesOf strayPackageTable strayPackage) (declaredFolders strayPackage)
      (.ofText "src") := hi.collapsible_of_absorbs hlies habsorbs
  have hmem : Folder.ofKind .source (.ofText "src/left") ∈ declaredFolders strayPackage := List.mem_cons_self
  have hcov := (hlies _ hmem).covers
  obtain ⟨o, ho, hsrc⟩ := hcond.exists_covers ⟨_, hmem, hcov⟩ hcol
  refine ⟨_, heq, o, ho, beq_of_covers_root (Path.parentDir?_eq_none_iff.2 (by decide)) hsrc, ?_⟩
  exact (((hcond.represents o ho).agrees _ hmem (hsrc.trans hcov)).2).symm.trans (hsame _ hmem).2

theorem exists_packages_of_merged_strayPackage :
    ∃ out, simplify strayPackageTable strayPackage = .ok out ∧ ∃ o ∈ out.merged, o.wantsNamespacePrefix = true ∧
      (∀ f ∈ declaredFolders strayPackage, f.members.toList = []) ∧
      (∃ p ∈ declaredFolders strayPackage, o.path.Covers p.path ∧ ¬ (o.path == p.path) = true) ∧
      ∃ m : Path, m.components ≠ [] ∧ PackageOf strayPackageTable (declaredFolders strayPackage) o.path m ∧
        ∀ x : Path, o.path.Covers x → Occupied (declaredFolders strayPackage) x →
          ∃ (package : Path) (names steps : List Component),
            PackageOf strayPackageTable (declaredFolders strayPackage) x package ∧
            x.components = o.path.components ++ names ∧ package.components = m.components ++ steps ∧
            steps.length = names.length := by
  obtain ⟨out, heq, o, ho, hsrc, hwants⟩ := exists_merged_strayPackage
  have hmembers : ∀ f ∈ declaredFolders strayPackage, f.members.toList = [] := by decide
  have hleft : Folder.ofKind .source (.ofText "src/left") ∈ declaredFolders strayPackage := List.mem_cons_self
  obtain ⟨hcov, hne⟩ := covers_strayPackage hsrc _ hleft
  exact ⟨out, heq, o, ho, hwants, hmembers, ⟨_, hleft, hcov, hne⟩,
    exists_packages_of_merged hmembers heq ho hwants hleft hcov hne⟩

/-- **Packages need not be named like the directories.** Here two folders become one, and no namespace has both
    folders' packages below it under the names of their directories. -/
theorem not_namedBelow_strayPackage :
    ∃ out, simplify strayPackageTable strayPackage = .ok out ∧ ∃ o ∈ out.merged, o.wantsNamespacePrefix = true ∧
      (∀ f ∈ strayPackage, f.members.toList = []) ∧
      (∀ f ∈ declaredFolders strayPackage, o.path.Covers f.path ∧ ¬ (o.path == f.path) = true) ∧
      ¬ ∃ m, NamedBelow strayPackageTable (declaredFolders strayPackage) o.path m := by
  obtain ⟨out, heq, o, ho, hsrc, hwants⟩ := exists_merged_strayPackage
  have hsteps : o.path.components = [.name "src"] := Path.beq_iff.1 hsrc
  have hcov := covers_strayPackage hsrc
  refine ⟨out, heq, o, ho, hwants, by decide, hcov, ?_⟩
  rintro ⟨m, hm⟩
  -- the second folder's name would have to be the last step of its namespace
  have hright : Folder.ofKind .source (.ofText "src/right") ∈ declaredFolders strayPackage :=
    List.mem_cons_of_mem _ List.mem_cons_self
  obtain ⟨answer, names, hpath, hres, hanswer⟩ := hm _ hright (hcov _ hright).1
  have hnames : names = [.name "right"] := by
    rw [hsteps] at hpath
    exact (List.cons.inj hpath).2.symm.trans (by decide)
  have hother : (strayPackageTable.resolve (Folder.ofKind .source (.ofText "src/right")).representative).map
      (·.components.getLast?) = some (some (.name "other")) := by decide
  rw [hres, Option.map_some, hanswer, hnames, List.getLast?_concat] at hother
  exact absurd hother (by decide)

end RootFold
