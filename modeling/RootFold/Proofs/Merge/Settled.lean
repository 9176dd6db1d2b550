import RootFold.Proofs.Ancestry.Traversal
import RootFold.Proofs.Merge.Node

/-!
# `RootFold.Proofs.Merge.Settled` — one directory, after the trees inside it

A directory is decided from the outcomes that wait for it. Before the trees inside it were walked, only declared
folders were held in its tree; afterwards each of these trees holds the folders of its topmost directories that
collapse. The decision turns this into the same statement about the directory's own tree, whichever branch it
takes, and never fails.

## Contents
- **Invariants.** `Faithful` accumulators; `Fresh` before and `Reduced` after some trees were walked; `Walked` adds
  the outcomes that wait, `Settled` the outcome of one directory.
- **Topmost directories.** `TopmostIn`, and how it passes from a directory to those inside it.
- **Three ends.** `Walked.settled_leaf`, `Walked.settled_blocked`, `Walked.settled_merged`.
- **The decision.** `exists_mergeNode`.
-/

namespace RootFold

variable {ns : NamespaceCache} {declared : List Folder} {g : AncestryGraph} {p q c : Path} {acc acc' : Accumulator}

/-! ## Invariants -/

/-- **Every folder that is held** is held at its own path and stands for the declared folders at or under it; at a
    declared path it is the declared folder itself. -/
structure Faithful (declared : List Folder) (acc : Accumulator) : Prop where
  path : ∀ q f, acc.find? q = some f → (f.path == q) = true
  represents : ∀ q f, acc.find? q = some f → Represents declared f
  itself : ∀ q f, acc.find? q = some f → ∀ d ∈ declared, (d.path == q) = true → f = d

/-- Some folder is declared at the path. -/
def DeclaredAt (declared : List Folder) (q : Path) : Prop := ∃ d ∈ declared, (d.path == q) = true

theorem DeclaredAt.occupied (h : DeclaredAt declared q) : Occupied declared q := by
  obtain ⟨d, hd, he⟩ := h
  exact ⟨d, hd, .of_beq (BEq.symm he)⟩

/-- The topmost directories that collapse, seen from one that covers them. -/
structure TopmostIn (ns : NamespaceCache) (declared : List Folder) (p q : Path) : Prop where
  occupied : Occupied declared q
  collapsible : Collapsible ns declared q
  top : ∀ m, q.LiesIn m → p.Covers m → ¬ Collapsible ns declared m

/-- What an outcome says about a directory. -/
def Decided (ns : NamespaceCache) (declared : List Folder) (acc : Accumulator) (p : Path) : Outcome → Prop
  | .merged f => acc.find? p = some f ∧ Collapsible ns declared p
  | .blocked => ¬ Collapsible ns declared p

/-- **Before some trees are walked** only declared folders are held in them. -/
structure Fresh (declared : List Folder) (fronts : List Path) (acc : Accumulator) : Prop where
  faithful : Faithful declared acc
  untouched : ∀ c ∈ fronts, ∀ q, c.Covers q → (acc.contains q = true ↔ DeclaredAt declared q)

/-- **After some trees were walked** the topmost directories that collapse hold folders in them, and elsewhere
    nothing has changed. -/
structure Reduced (ns : NamespaceCache) (declared : List Folder) (fronts : List Path) (acc acc' : Accumulator) :
    Prop where
  faithful : Faithful declared acc'
  held : ∀ c ∈ fronts, ∀ q, c.Covers q → (acc'.contains q = true ↔ TopmostIn ns declared c q)
  frame : ∀ q, (∀ c ∈ fronts, ¬ c.Covers q) → acc'.find? q = acc.find? q

/-- **The trees' outcomes wait** for the directory above, and no other outcome has changed. -/
structure Walked (ns : NamespaceCache) (declared : List Folder) (fronts : List Path) (finished finished' : Finished)
    (acc acc' : Accumulator) : Prop extends Reduced ns declared fronts acc acc' where
  waiting : ∀ c ∈ fronts, ∃ o, finished'.find? c = some o ∧ Decided ns declared acc' c o
  waitingFrame : ∀ q, (∀ c ∈ fronts, ¬ c.Covers q) → finished'.find? q = finished.find? q

/-- **A directory is settled** when its tree was walked and its outcome is right. -/
structure Settled (ns : NamespaceCache) (declared : List Folder) (p : Path) (o : Outcome)
    (acc acc' : Accumulator) : Prop extends Reduced ns declared [p] acc acc' where
  decided : Decided ns declared acc' p o

theorem Reduced.of_tree (hfaithful : Faithful declared acc')
    (hheld : ∀ q, p.Covers q → (acc'.contains q = true ↔ TopmostIn ns declared p q))
    (hframe : ∀ q, ¬ p.Covers q → acc'.find? q = acc.find? q) : Reduced ns declared [p] acc acc' where
  faithful := hfaithful
  held c hc := by
    obtain rfl := List.mem_singleton.1 hc
    exact hheld
  frame q hq := hframe q (hq p (List.mem_singleton_self p))

/-! ## Topmost directories -/

theorem TopmostIn.of_congr (h : (p == q) = true) (hp : Occupied declared p) (hc : Collapsible ns declared p) :
    TopmostIn ns declared p q where
  occupied := hp.of_covers (.of_beq (BEq.symm h))
  collapsible := (Collapsible.congr h).1 hc
  top _ hm hpm := absurd hpm ((Path.LiesIn.congr h BEq.rfl).2 hm).not_covers

/-- Under a directory that collapses nothing else is topmost. -/
theorem TopmostIn.beq (h : TopmostIn ns declared p q) (hpq : p.Covers q) (hc : Collapsible ns declared p) :
    (p == q) = true := by
  rcases Path.covers_iff_parentDir?.1 hpq with he | ⟨m, hm, hpm⟩
  · exact he
  · exact absurd (hc.of_covers hpm) (h.top m (.of_parentDir? hm) hpm)

/-- From a directory that does not collapse the same directories are topmost as from one directly inside it. -/
theorem topmostIn_iff_of_liesIn (hc : c.LiesIn p) (hcq : c.Covers q) (hp : ¬ Collapsible ns declared p) :
    TopmostIn ns declared p q ↔ TopmostIn ns declared c q := by
  constructor
  · intro h
    exact ⟨h.occupied, h.collapsible, fun m hm hcm => h.top m hm (hc.covers.trans hcm)⟩
  · intro h
    refine ⟨h.occupied, h.collapsible, fun m hm hpm hcol => ?_⟩
    by_cases he : (c == q) = true
    · have hmp : (m == p) = true := Path.LiesIn.beq hm ((Path.LiesIn.congr he BEq.rfl).1 hc)
      exact hp ((Collapsible.congr hmp).1 hcol)
    · exact h.top m hm (hcq.of_liesIn_of_not_beq he hm) hcol

/-! ## Three ends -/

/-- **The directories inside one,** as far as the declared folders are concerned. -/
structure InsideOf (declared : List Folder) (p : Path) (cs : List Path) : Prop where
  liesIn : ∀ c ∈ cs, c.LiesIn p
  occupied : ∀ c ∈ cs, Occupied declared c
  complete : ∀ q, p.Covers q → Occupied declared q → (p == q) = true ∨ ∃ c ∈ cs, c.Covers q

variable {cs : List Path} {finished finished' : Finished}

/-- What was not walked below the directory holds nothing but declared folders. -/
theorem Walked.contains_iff (h : Walked ns declared cs finished finished' acc acc') (hf : Fresh declared [p] acc)
    (hpq : p.Covers q) (hq : ∀ c ∈ cs, ¬ c.Covers q) : acc'.contains q = true ↔ DeclaredAt declared q := by
  rw [PathMap.contains, h.frame q hq]
  exact hf.untouched p (by simp) q hpq

/-- **A directory with nothing inside** is declared, and is settled with its folder. -/
theorem Walked.settled_leaf (hi : Independent declared) (hocc : Occupied declared p) (hin : InsideOf declared p [])
    (hf : Fresh declared [p] acc) (hw : Walked ns declared [] finished finished' acc acc') :
    ∃ f, acc'.find? p = some f ∧ Settled ns declared p (.merged f) acc' acc' := by
  have hheld : ∀ q, p.Covers q → (acc'.contains q = true ↔ DeclaredAt declared q) := fun q hpq =>
    hw.contains_iff hf hpq fun c hc => absurd hc List.not_mem_nil
  obtain ⟨d, hd, hpd⟩ := hocc
  have hpath : (p == d.path) = true := by
    rcases hin.complete d.path hpd ⟨d, hd, .refl _⟩ with he | ⟨c, hc, -⟩
    · exact he
    · exact absurd hc List.not_mem_nil
  have hcol : Collapsible ns declared p := (Collapsible.congr hpath).2 (hi.collapsible hd)
  obtain ⟨f, hfind⟩ := PathMap.contains_iff.1 ((hheld p (.refl p)).2 ⟨d, hd, BEq.symm hpath⟩)
  refine ⟨f, hfind, .of_tree hw.faithful (fun q hpq => ?_) fun _ _ => rfl, hfind, hcol⟩
  rw [hheld q hpq]
  constructor
  · rintro ⟨e, he, heq⟩
    have hde : d = e :=
      hi.eq_of_covers hd he ((Path.Covers.of_beq (BEq.symm hpath)).trans (hpq.trans (.of_beq (BEq.symm heq))))
    exact .of_congr (BEq.trans hpath (hde ▸ heq)) ⟨d, hd, hpd⟩ hcol
  · intro h
    exact ⟨d, hd, BEq.trans (BEq.symm hpath) (h.beq hpq hcol)⟩

/-- In the tree of a blocked directory the folders are left that were held in the trees inside it. -/
theorem walked_blocked (hin : InsideOf declared p cs) (hf : Fresh declared [p] acc)
    (hw : Walked ns declared cs finished finished' acc acc') (hfree : ¬ DeclaredAt declared p)
    (hblocked : ¬ Collapsible ns declared p) (hpq : p.Covers q) :
    acc'.contains q = true ↔ TopmostIn ns declared p q := by
  -- in a tree inside nothing changes; elsewhere there is only the directory itself, which is not declared
  by_cases hinside : ∃ c ∈ cs, c.Covers q
  · obtain ⟨c, hc, hcq⟩ := hinside
    rw [hw.held c hc q hcq, topmostIn_iff_of_liesIn (hin.liesIn c hc) hcq hblocked]
  · have hnot : ∀ c ∈ cs, ¬ c.Covers q := fun c hc hcq => hinside ⟨c, hc, hcq⟩
    rw [hw.contains_iff hf hpq hnot]
    constructor
    · intro h
      rcases hin.complete q hpq h.occupied with he | hex
      · obtain ⟨d, hd, hdq⟩ := h
        exact absurd ⟨d, hd, BEq.trans hdq (BEq.symm he)⟩ hfree
      · exact absurd hex hinside
    · intro h
      rcases hin.complete q hpq h.occupied with he | hex
      · exact absurd ((Collapsible.congr he).2 h.collapsible) hblocked
      · exact absurd hex hinside

/-- **A blocked directory** is settled as it is. -/
theorem Walked.settled_blocked (hin : InsideOf declared p cs) (hf : Fresh declared [p] acc)
    (hw : Walked ns declared cs finished finished' acc acc') (hfree : ¬ DeclaredAt declared p)
    (hblocked : ¬ Collapsible ns declared p) : Settled ns declared p .blocked acc' acc' where
  toReduced := .of_tree hw.faithful (fun _ hpq => walked_blocked hin hf hw hfree hblocked hpq) fun _ _ => rfl
  decided := hblocked

/-- In the tree of a merged directory one folder is left. -/
theorem walked_merged {folders : List Folder} {merged : Folder} (hin : InsideOf declared merged.path cs)
    (hf : Fresh declared [merged.path] acc) (hw : Walked ns declared cs finished finished' acc acc')
    (hocc : Occupied declared merged.path) (hcol : Collapsible ns declared merged.path)
    (hfolders : ∀ c ∈ cs, ∃ f ∈ folders, (f.path == c) = true) (hpq : merged.path.Covers q) :
    (acc'.replace folders merged).contains q = true ↔ TopmostIn ns declared merged.path q := by
  rw [PathMap.contains, find?_replace]
  cases hqp : q == merged.path with
  | true => exact ⟨fun _ => .of_congr (BEq.symm hqp) hocc hcol, fun _ => rfl⟩
  | false =>
    have hne : ¬ (merged.path == q) = true := fun he => by rw [BEq.symm he] at hqp; exact absurd hqp (by simp)
    refine ⟨fun h => absurd h ?_, fun h => absurd (h.beq hpq hcol) hne⟩
    rw [if_neg Bool.false_ne_true]
    cases hany : folders.any fun f => q == f.path with
    | true => simp
    | false =>
      rw [if_neg Bool.false_ne_true]
      intro hheld
      -- held below the directory but not replaced: the trees inside it hold only what was replaced
      by_cases hinside : ∃ c ∈ cs, c.Covers q
      · obtain ⟨c, hc, hcq⟩ := hinside
        obtain ⟨f, hfmem, hfc⟩ := hfolders c hc
        have htop := (hw.held c hc q hcq).1 hheld
        have hcq' := htop.beq hcq (hcol.of_covers (hin.liesIn c hc).covers)
        have hqf : (q == f.path) = true := BEq.symm (BEq.trans hfc hcq')
        exact List.any_eq_false.1 hany f hfmem hqf
      · have hdecl := (hw.contains_iff hf hpq fun c hc hcq => hinside ⟨c, hc, hcq⟩).1 hheld
        rcases hin.complete q hpq hdecl.occupied with he | hex
        · exact hne he
        · exact hinside hex

/-- The merged folder stands for what the folders stood for that it replaces. -/
theorem Faithful.replace {folders : List Folder} {merged : Folder} (hacc : Faithful declared acc)
    (hin : Inside ns declared merged.path folders) (hfree : ¬ DeclaredAt declared merged.path)
    (hkind : ∀ f ∈ folders, merged.kind = f.kind)
    (hflag : ∀ f ∈ folders, merged.wantsNamespacePrefix = f.wantsNamespacePrefix)
    (hmembers : merged.members.GatheredFrom folders) :
    Faithful declared (acc.replace folders merged) := by
  have hrep : Represents declared merged := by
    refine ⟨fun d hd hmd => ?_, fun x => ?_, fun x hx => ?_⟩
    · obtain ⟨f, hf, hfd⟩ := hin.complete d hd hmd
      rw [hkind f hf, hflag f hf]
      exact (hin.represents f hf).agrees d hd hfd
    · rw [hmembers.contains]
      constructor
      · rintro ⟨f, hf, hx⟩
        obtain ⟨d, hd, hfd, hdx⟩ := ((hin.represents f hf).members x).1 hx
        exact ⟨d, hd, (hin.liesIn f hf).covers.trans hfd, hdx⟩
      · rintro ⟨d, hd, hmd, hdx⟩
        obtain ⟨f, hf, hfd⟩ := hin.complete d hd hmd
        exact ⟨f, hf, ((hin.represents f hf).members x).2 ⟨d, hd, hfd, hdx⟩⟩
    · obtain ⟨f, hf, hxf⟩ := hmembers.spelled x hx
      obtain ⟨d, hd, hfd, hdx⟩ := (hin.represents f hf).spelled x hxf
      exact ⟨d, hd, (hin.liesIn f hf).covers.trans hfd, hdx⟩
  -- what is held afterwards is the merged folder or was held before
  have hcases : ∀ q f, (acc.replace folders merged).find? q = some f →
      (q == merged.path) = true ∧ f = merged ∨ acc.find? q = some f := by
    intro q f h
    rw [find?_replace] at h
    split at h
    · next he => exact .inl ⟨he, (Option.some.inj h).symm⟩
    · split at h
      · exact absurd h (by simp)
      · exact .inr h
  refine ⟨fun q f h => ?_, fun q f h => ?_, fun q f h d hd hdq => ?_⟩
  · rcases hcases q f h with ⟨he, rfl⟩ | h
    · exact BEq.symm he
    · exact hacc.path q f h
  · rcases hcases q f h with ⟨-, rfl⟩ | h
    · exact hrep
    · exact hacc.represents q f h
  · rcases hcases q f h with ⟨he, -⟩ | h
    · exact absurd ⟨d, hd, BEq.trans hdq he⟩ hfree
    · exact hacc.itself q f h d hd hdq

/-- **A merged directory** is settled with the folder that takes the place of those inside it. -/
theorem Walked.settled_merged {folders : List Folder} {merged : Folder} (hin : InsideOf declared merged.path cs)
    (hf : Fresh declared [merged.path] acc) (hw : Walked ns declared cs finished finished' acc acc')
    (hocc : Occupied declared merged.path) (hfree : ¬ DeclaredAt declared merged.path)
    (hcol : Collapsible ns declared merged.path) (hinside : Inside ns declared merged.path folders)
    (hfolders : ∀ c ∈ cs, ∃ f ∈ folders, (f.path == c) = true) (hkind : ∀ f ∈ folders, merged.kind = f.kind)
    (hflag : ∀ f ∈ folders, merged.wantsNamespacePrefix = f.wantsNamespacePrefix)
    (hmembers : merged.members.GatheredFrom folders) :
    Settled ns declared merged.path (.merged merged) acc' (acc'.replace folders merged) where
  toReduced := by
    have hfaithful := hw.faithful.replace hinside hfree hkind hflag hmembers
    refine .of_tree hfaithful (fun q hpq => walked_merged hin hf hw hocc hcol hfolders hpq) fun q hq => ?_
    rw [find?_replace, if_neg fun he => hq (.of_beq (BEq.symm he)), if_neg]
    intro hany
    obtain ⟨f, hf, hqf⟩ := List.any_eq_true.1 hany
    exact hq ((hinside.liesIn f hf).covers.trans (.of_beq (BEq.symm hqf)))
  decided := ⟨by rw [find?_replace, if_pos BEq.rfl], hcol⟩

/-- A directory with a declared folder further inside is not declared itself. -/
theorem InsideOf.not_declaredAt (hin : InsideOf declared p cs) (hi : Independent declared) (hc : c ∈ cs) :
    ¬ DeclaredAt declared p := by
  rintro ⟨d, hd, hdp⟩
  obtain ⟨e, he, hce⟩ := hin.occupied c hc
  exact hi.not_covers_inside hd he (hin.liesIn c hc) (.of_beq hdp) hce

/-- The folders that wait for a directory are those directly inside it. -/
theorem Walked.inside (hin : InsideOf declared p cs) (hw : Walked ns declared cs finished finished' acc acc')
    (hfree : ¬ DeclaredAt declared p) {outcomes : List Outcome} {folders : List Folder}
    (hout : ∀ o, o ∈ outcomes ↔ ∃ c ∈ cs, finished'.find? c = some o) (hall : allMerged? outcomes = some folders) :
    Inside ns declared p folders ∧ ∀ c ∈ cs, ∃ f ∈ folders, (f.path == c) = true := by
  have hmap := allMerged?_eq_some hall
  -- outcomes that wait and directories inside correspond, in both directions
  have hback : ∀ f ∈ folders, ∃ c ∈ cs, acc'.find? c = some f ∧ Collapsible ns declared c := by
    intro f hf
    obtain ⟨c, hc, hwait⟩ := (hout (.merged f)).1 (hmap ▸ List.mem_map_of_mem hf)
    obtain ⟨o, ho, hdec⟩ := hw.waiting c hc
    obtain rfl : .merged f = o := Option.some.inj (hwait.symm.trans ho)
    exact ⟨c, hc, hdec⟩
  have hforth : ∀ c ∈ cs, ∃ f ∈ folders, (f.path == c) = true := by
    intro c hc
    obtain ⟨o, ho, hdec⟩ := hw.waiting c hc
    have hmem : o ∈ folders.map Outcome.merged := hmap ▸ (hout o).2 ⟨c, hc, ho⟩
    obtain ⟨f, hf, rfl⟩ := List.mem_map.1 hmem
    exact ⟨f, hf, hw.faithful.path c f hdec.1⟩
  refine ⟨⟨fun f hf => ?_, fun f hf => ?_, fun f hf => ?_, fun f hf => ?_, fun d hd hpd => ?_⟩, hforth⟩
  · obtain ⟨c, hc, hfind, -⟩ := hback f hf
    exact (Path.LiesIn.congr (hw.faithful.path c f hfind) BEq.rfl).2 (hin.liesIn c hc)
  · obtain ⟨c, hc, hfind, -⟩ := hback f hf
    exact (hin.occupied c hc).of_covers (.of_beq (hw.faithful.path c f hfind))
  · obtain ⟨c, -, hfind, hcol⟩ := hback f hf
    exact (Collapsible.congr (hw.faithful.path c f hfind)).2 hcol
  · obtain ⟨c, -, hfind, -⟩ := hback f hf
    exact hw.faithful.represents c f hfind
  · rcases hin.complete d.path hpd ⟨d, hd, .refl _⟩ with he | ⟨c, hc, hcd⟩
    · exact absurd ⟨d, hd, BEq.symm he⟩ hfree
    · obtain ⟨f, hf, hfc⟩ := hforth c hc
      exact ⟨f, hf, (Path.Covers.congr hfc BEq.rfl).2 hcd⟩

/-! ## The decision -/

/-- **The decision about a directory** after the trees inside it were walked. -/
theorem exists_mergeNode (hi : Independent declared) (hin : InsideOf declared p cs) (hocc : Occupied declared p)
    (hf : Fresh declared [p] acc) {s : Pass} (hw : Walked ns declared cs finished finished' acc s.accumulator)
    {outcomes : List Outcome} (hout : ∀ o, o ∈ outcomes ↔ ∃ c ∈ cs, finished'.find? c = some o) :
    ∃ o s', mergeNode ns p outcomes s = .ok o s' ∧
      Settled ns declared p o s.accumulator s'.accumulator := by
  cases hall : allMerged? outcomes with
  | none =>
    -- a blocked directory inside
    obtain ⟨c, hc, hwait⟩ := (hout .blocked).1 (allMerged?_eq_none hall)
    obtain ⟨o, ho, hdec⟩ := hw.waiting c hc
    obtain rfl : .blocked = o := Option.some.inj (hwait.symm.trans ho)
    have hblocked : ¬ Collapsible ns declared p := fun h => hdec (h.of_covers (hin.liesIn c hc).covers)
    obtain ⟨notes, heq⟩ := mergeNode_blockedBelow ns p hall s
    exact ⟨_, _, heq, hw.settled_blocked hin hf (hin.not_declaredAt hi hc) hblocked⟩
  | some folders =>
    have houtcomes := allMerged?_eq_some hall
    cases folders with
    | nil =>
      -- nothing inside, since every directory there has an outcome
      have hcs : cs = [] := by
        refine List.eq_nil_iff_forall_not_mem.2 fun c hc => ?_
        obtain ⟨o, ho, -⟩ := hw.waiting c hc
        have hmem : o ∈ outcomes := (hout o).2 ⟨c, hc, ho⟩
        rw [houtcomes] at hmem
        exact List.not_mem_nil hmem
      subst hcs
      obtain ⟨f, hfind, hset⟩ := hw.settled_leaf hi hocc hin hf
      exact ⟨_, _, mergeNode_leaf hall hfind, hset⟩
    | cons first rest =>
      -- folders inside, so the directory itself is not declared and not held
      obtain ⟨c, hc, -⟩ : ∃ c ∈ cs, finished'.find? c = some (.merged first) :=
        (hout _).1 (by rw [houtcomes]; simp)
      have hfree := hin.not_declaredAt hi hc
      obtain ⟨hinside, hfolders⟩ := hw.inside hin hfree hout hall
      have hnone : s.accumulator.contains p = false := by
        rw [← Bool.not_eq_true, hw.contains_iff hf (.refl p) fun c hc => (hin.liesIn c hc).not_covers]
        exact hfree
      have hinside' : Inside ns declared (first.relocated p).path (first :: rest) := hinside
      have habove : ∀ f ∈ first :: rest, p.IsAbove f.path := fun f hf => (hinside.liesIn f hf).isAbove
      rcases mergeNode_inside ns hall habove hnone with ⟨habs, notes, heq⟩ | ⟨hnot, notes, heq⟩
      · have hcol := collapsible_of_absorbs hinside' habs
        have hinNode : InsideOf declared (first.joined p (first :: rest)).path cs := hin
        exact ⟨_, _, heq, hw.settled_merged hinNode hf hocc hfree hcol hinside hfolders (fun f hf => (habs f hf).kind)
          (fun f hf => (habs f hf).flag) (PathSet.gatheredFrom_gather _)⟩
      · have hblocked : ¬ Collapsible ns declared p := fun h =>
          hnot (Collapsible.absorbs hinside' h List.mem_cons_self rfl rfl)
        exact ⟨_, _, heq, hw.settled_blocked hin hf hfree hblocked⟩

end RootFold
