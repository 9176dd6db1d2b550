import RootFold.Merge.Absorption
import RootFold.Proofs.Path.Covering
import RootFold.Proofs.Path.Map
import Mathlib.Data.List.Pairwise

/-!
# `RootFold.Proofs.Merge.Collapse` — which directories become one folder, said without a walk

The walk decides about a directory from what became of those inside it. The outcome can be said at once: a
directory collapses when the folders declared at or under it agree on kind and flag and, if they want a namespace
prefix, every single step down from the directory to one of them is followed by a step of the namespaces. Both
conditions pass on to everything the directory covers, so the folders that are left are those of the topmost
directories that collapse.

## Contents
- **One step.** `NamespaceCache.Follows` composes along any number of levels; `Absorbs` is the absorption test, and
  `Absorbs.iff_of_between` says that it composes as well.
- **Directories.** `Homogeneous`, `Aligned` with `Aligned.follows` and `Aligned.exists_lookup`, `Collapsible`,
  `Topmost`.
- **Folders.** `Independent` declarations; `Represents` says what a folder stands for.
- **From the inside out.** `collapsible_of_absorbs` and `Collapsible.absorbs`, one level at a time.
-/

namespace RootFold

variable {ns : NamespaceCache} {declared : List Folder} {a b c p q : Path} {f g : Folder}

/-! ## One step -/

/-- **The namespaces of two directories follow their places:** the lower one is the upper one with as many steps
    behind it as lie between the directories, and the upper one is not empty. -/
def NamespaceCache.Follows (ns : NamespaceCache) (upper lower : Path) : Prop :=
  ∃ u l, ns.lookup upper = some u ∧ ns.lookup lower = some l ∧ u.components ≠ [] ∧
    ∃ tail, l.components = u.components ++ tail ∧
      upper.components.length + tail.length = lower.components.length

theorem NamespaceCache.lookup_congr (h : (p == q) = true) : ns.lookup p = ns.lookup q := PathMap.find?_congr h

theorem NamespaceCache.Follows.congr (hab : (a == b) = true) (hpq : (p == q) = true) :
    ns.Follows a p ↔ ns.Follows b q := by
  rw [Follows, Follows, lookup_congr hab, lookup_congr hpq, Path.beq_iff.1 hab, Path.beq_iff.1 hpq]

theorem NamespaceCache.follows_iff {u l : Path} (hu : ns.lookup a = some u) (hl : ns.lookup b = some l) :
    ns.Follows a b ↔ u.components ≠ [] ∧ ∃ tail, l.components = u.components ++ tail ∧
      a.components.length + tail.length = b.components.length := by
  constructor
  · rintro ⟨u', l', hu', hl', h⟩
    obtain rfl : u = u' := Option.some.inj (hu.symm.trans hu')
    obtain rfl : l = l' := Option.some.inj (hl.symm.trans hl')
    exact h
  · exact fun h => ⟨u, l, hu, hl, h⟩

/-- **Following composes** along a chain of directories. -/
theorem NamespaceCache.Follows.trans (hab : ns.Follows a b) (hbc : ns.Follows b c) : ns.Follows a c := by
  obtain ⟨u, m, hu, hm, hne, tail, htail, hlen⟩ := hab
  obtain ⟨m', l, hm', hl, -, tail', htail', hlen'⟩ := hbc
  obtain rfl : m = m' := Option.some.inj (hm.symm.trans hm')
  refine ⟨u, l, hu, hl, hne, tail ++ tail', ?_, ?_⟩
  · rw [htail', htail, List.append_assoc]
  · rw [List.length_append]
    omega

/-- **What follows through two levels and through the lower one** follows through the upper one: of two beginnings of
    one namespace the shorter one begins the longer one. -/
theorem NamespaceCache.Follows.of_lower (hac : ns.Follows a c) (hbc : ns.Follows b c) (hab : a.IsAbove b) :
    ns.Follows a b := by
  obtain ⟨u, l, hu, hl, hne, tail, htail, hlen⟩ := hac
  obtain ⟨m, l', hm, hl', -, tail', htail', hlen'⟩ := hbc
  obtain rfl : l = l' := Option.some.inj (hl.symm.trans hl')
  have hlength := congrArg List.length (htail.symm.trans htail')
  rw [List.length_append, List.length_append] at hlength
  have hshorter := hab.shorter
  obtain ⟨between, hbetween⟩ : u.components <+: m.components :=
    List.prefix_of_prefix_length_le ⟨tail, htail.symm⟩ ⟨tail', htail'.symm⟩ (by omega)
  refine ⟨u, m, hu, hm, hne, between, hbetween.symm, ?_⟩
  rw [← hbetween, List.length_append] at hlength
  omega

/-- **One folder may absorb another** that lies below it. -/
structure Absorbs (ns : NamespaceCache) (parent child : Folder) : Prop where
  kind : parent.kind = child.kind
  flag : parent.wantsNamespacePrefix = child.wantsNamespacePrefix
  follows : parent.wantsNamespacePrefix = true → ns.Follows parent.path child.path

/-- **Absorption composes:** between three folders, one below the other, the lowest of which may be absorbed by the
    middle one, the uppermost may absorb both or neither. -/
theorem Absorbs.iff_of_between {upper middle lower : Folder} (habove : upper.path.IsAbove middle.path)
    (h : Absorbs ns middle lower) : Absorbs ns upper lower ↔ Absorbs ns upper middle := by
  constructor
  · intro hul
    refine ⟨hul.kind.trans h.kind.symm, hul.flag.trans h.flag.symm, ?_⟩
    intro hwants
    have hmiddle : middle.wantsNamespacePrefix = true := by rw [h.flag, ← hul.flag, hwants]
    exact (hul.follows hwants).of_lower (h.follows hmiddle) habove
  · intro hum
    refine ⟨hum.kind.trans h.kind, hum.flag.trans h.flag, ?_⟩
    intro hwants
    have hmiddle : middle.wantsNamespacePrefix = true := by rw [← hum.flag, hwants]
    exact (hum.follows hwants).trans (h.follows hmiddle)

/-! ## Directories -/

/-- **The folders declared at or under a directory agree** on kind and namespace flag. -/
def Homogeneous (declared : List Folder) (q : Path) : Prop :=
  ∀ f ∈ declared, ∀ g ∈ declared, q.Covers f.path → q.Covers g.path →
    f.kind = g.kind ∧ f.wantsNamespacePrefix = g.wantsNamespacePrefix

/-- **The namespaces follow the directories** on every step from a directory down to a folder that wants a
    prefix. -/
def Aligned (ns : NamespaceCache) (declared : List Folder) (q : Path) : Prop :=
  ∀ f ∈ declared, f.wantsNamespacePrefix = true →
    ∀ m c : Path, q.Covers m → c.LiesIn m → c.Covers f.path → ns.Follows m c

/-- **Alignment reaches over any number of levels,** one step after the other. -/
theorem Aligned.follows {c : Path} (h : Aligned ns declared a) (hf : f ∈ declared)
    (hflag : f.wantsNamespacePrefix = true) (hab : a.Covers b) (hbc : b.Covers c) (hne : ¬ (b == c) = true)
    (hcf : c.Covers f.path) : ns.Follows b c := by
  -- by the number of steps of the lower directory
  rcases Path.covers_iff_parentDir?.1 hbc with he | ⟨m, hm, hbm⟩
  · exact absurd he hne
  · have hlies : c.LiesIn m := .of_parentDir? hm
    have hstep : ns.Follows m c := h f hf hflag m c (hab.trans hbm) hlies hcf
    by_cases hbe : (b == m) = true
    · exact (NamespaceCache.Follows.congr hbe BEq.rfl).2 hstep
    · exact (h.follows hf hflag hab hbm hbe (hlies.covers.trans hcf)).trans hstep
termination_by c.components.length
decreasing_by exact Path.length_components_of_parentDir? hm

/-- **What is known further down** lies in what is known above, as many steps further in as the directory is further
    down. -/
theorem Aligned.exists_lookup (h : Aligned ns declared a) {u : Path} (hu : ns.lookup a = some u) (hf : f ∈ declared)
    (hflag : f.wantsNamespacePrefix = true) (hab : a.Covers b) (hbf : b.Covers f.path) :
    ∃ (l : Path) (names steps : List Component), ns.lookup b = some l ∧ b.components = a.components ++ names ∧
      l.components = u.components ++ steps ∧ steps.length = names.length := by
  by_cases he : (a == b) = true
  · rw [NamespaceCache.lookup_congr he] at hu
    exact ⟨u, [], [], hu, by rw [List.append_nil, Path.beq_iff.1 he], (List.append_nil _).symm, rfl⟩
  · obtain ⟨names, hnames⟩ := (Path.covers_iff.1 hab).1
    obtain ⟨u', l, hu', hl, -, steps, hsteps, hlen⟩ := h.follows hf hflag (.refl _) hab he hbf
    obtain rfl : u = u' := Option.some.inj (hu.symm.trans hu')
    refine ⟨l, names, steps, hl, hnames.symm, hsteps, ?_⟩
    rw [← hnames, List.length_append] at hlen
    exact Nat.add_left_cancel hlen

/-- **A directory collapses** into one folder. -/
structure Collapsible (ns : NamespaceCache) (declared : List Folder) (q : Path) : Prop where
  homogeneous : Homogeneous declared q
  aligned : Aligned ns declared q

/-- What collapses passes on to everything it covers. -/
theorem Collapsible.of_covers (h : Collapsible ns declared q) (hq : q.Covers p) : Collapsible ns declared p where
  homogeneous f hf g hg hpf hpg := h.homogeneous f hf g hg (hq.trans hpf) (hq.trans hpg)
  aligned f hf hflag m c hpm := h.aligned f hf hflag m c (hq.trans hpm)

theorem Collapsible.congr (h : (p == q) = true) : Collapsible ns declared p ↔ Collapsible ns declared q :=
  ⟨fun hp => hp.of_covers (.of_beq h), fun hq => hq.of_covers (.of_beq (BEq.symm h))⟩

/-- Some declared folder is at or under the directory. -/
def Occupied (declared : List Folder) (q : Path) : Prop := ∃ f ∈ declared, q.Covers f.path

theorem Occupied.of_covers (h : Occupied declared p) (hq : q.Covers p) : Occupied declared q := by
  obtain ⟨f, hf, hpf⟩ := h
  exact ⟨f, hf, hq.trans hpf⟩

/-- **The topmost directories that collapse:** nothing directly above does. -/
structure Topmost (ns : NamespaceCache) (declared : List Folder) (q : Path) : Prop where
  occupied : Occupied declared q
  collapsible : Collapsible ns declared q
  top : ∀ m, q.LiesIn m → ¬ Collapsible ns declared m

/-! ## Folders -/

/-- **Independent folders:** none is at or under another. -/
def Independent (declared : List Folder) : Prop :=
  declared.Pairwise fun f g => ¬ f.path.Covers g.path ∧ ¬ g.path.Covers f.path

theorem Independent.eq_of_covers (hi : Independent declared) (hf : f ∈ declared) (hg : g ∈ declared)
    (h : f.path.Covers g.path) : f = g := by
  have : Std.Symm fun f g : Folder => ¬ f.path.Covers g.path ∧ ¬ g.path.Covers f.path := ⟨fun _ _ => And.symm⟩
  exact Classical.byContradiction fun hne => (hi.forall hf hg hne).1 h

/-- Folders are independent when no one's steps begin another's. -/
theorem independent_of_not_prefix (h : declared.Pairwise fun f g =>
      ¬ f.path.components <+: g.path.components ∧ ¬ g.path.components <+: f.path.components) :
    Independent declared :=
  h.imp fun ⟨hfg, hgf⟩ => ⟨fun hc => hfg (Path.covers_iff.1 hc).1, fun hc => hgf (Path.covers_iff.1 hc).1⟩

/-- Nothing directly inside a declared folder's directory leads to a declared folder. -/
theorem Independent.not_covers_inside (hi : Independent declared) (hf : f ∈ declared) (hg : g ∈ declared)
    (hc : c.LiesIn p) (hfp : f.path.Covers p) : ¬ c.Covers g.path := by
  intro hcg
  obtain rfl := hi.eq_of_covers hf hg (hfp.trans (hc.covers.trans hcg))
  exact hc.not_covers (hcg.trans hfp)

/-- A declared folder's directory collapses by itself. -/
theorem Independent.collapsible (hi : Independent declared) (hf : f ∈ declared) :
    Collapsible ns declared f.path where
  homogeneous g hg g' hg' hfg hfg' := by
    rw [← hi.eq_of_covers hf hg hfg, ← hi.eq_of_covers hf hg' hfg']
    exact ⟨rfl, rfl⟩
  aligned g hg _ m c hfm hc hcg := absurd hcg (hi.not_covers_inside hf hg hc hfm)

/-- **What a folder stands for:** it agrees with all declared folders at or under its path, and its members are
    theirs, spelled as they spell them. -/
structure Represents (declared : List Folder) (f : Folder) : Prop where
  agrees : ∀ d ∈ declared, f.path.Covers d.path →
    d.kind = f.kind ∧ d.wantsNamespacePrefix = f.wantsNamespacePrefix
  members : ∀ x, f.members.contains x = true ↔
    ∃ d ∈ declared, f.path.Covers d.path ∧ d.members.contains x = true
  spelled : ∀ x ∈ f.members.toList, ∃ d ∈ declared, f.path.Covers d.path ∧ x ∈ d.members.toList

/-- A declared folder stands for itself. -/
theorem Independent.represents (hi : Independent declared) (hf : f ∈ declared) : Represents declared f where
  agrees d hd hfd := by
    rw [hi.eq_of_covers hf hd hfd]
    exact ⟨rfl, rfl⟩
  members x := by
    constructor
    · intro hx
      exact ⟨f, hf, .refl _, hx⟩
    · rintro ⟨d, hd, hfd, hx⟩
      rwa [hi.eq_of_covers hf hd hfd]
  spelled _ hx := ⟨f, hf, .refl _, hx⟩

/-! ## From the inside out -/

/-- **The folders directly inside a directory,** one for each directory there that leads to a declared folder. -/
structure Inside (ns : NamespaceCache) (declared : List Folder) (p : Path) (folders : List Folder) : Prop where
  liesIn : ∀ f ∈ folders, f.path.LiesIn p
  occupied : ∀ f ∈ folders, Occupied declared f.path
  collapsible : ∀ f ∈ folders, Collapsible ns declared f.path
  represents : ∀ f ∈ folders, Represents declared f
  complete : ∀ d ∈ declared, p.Covers d.path → ∃ f ∈ folders, f.path.Covers d.path

variable {folders : List Folder} {template : Folder}

/-- **A directory collapses** when a template at its place may absorb all folders inside it. -/
theorem collapsible_of_absorbs (hin : Inside ns declared template.path folders)
    (h : ∀ f ∈ folders, Absorbs ns template f) : Collapsible ns declared template.path where
  homogeneous d hd e he hpd hpe := by
    obtain ⟨f, hf, hfd⟩ := hin.complete d hd hpd
    obtain ⟨g, hg, hge⟩ := hin.complete e he hpe
    obtain ⟨hk, hw⟩ := (hin.represents f hf).agrees d hd hfd
    obtain ⟨hk', hw'⟩ := (hin.represents g hg).agrees e he hge
    rw [hk, hw, hk', hw', ← (h f hf).kind, ← (h g hg).kind, ← (h f hf).flag, ← (h g hg).flag]
    exact ⟨rfl, rfl⟩
  aligned d hd hflag m c hpm hcm hcd := by
    obtain ⟨f, hf, hfd⟩ := hin.complete d hd (hpm.trans (hcm.covers.trans hcd))
    have hlies := hin.liesIn f hf
    -- the step is the one into the folder's directory, or it lies further down
    rcases Path.covers_iff_beq_or_liesIn.1 hpm with he | ⟨k, hk, hkm⟩
    · have hct : c.LiesIn template.path := (Path.LiesIn.congr BEq.rfl (BEq.symm he)).1 hcm
      have hcf : (c == f.path) = true := hct.beq_of_covers hlies hcd hfd
      have hwants : template.wantsNamespacePrefix = true := by
        rw [(h f hf).flag, ← ((hin.represents f hf).agrees d hd hfd).2, hflag]
      exact (NamespaceCache.Follows.congr (BEq.symm he) hcf).2 ((h f hf).follows hwants)
    · have hkf : (k == f.path) = true := hk.beq_of_covers hlies (hkm.trans (hcm.covers.trans hcd)) hfd
      exact (hin.collapsible f hf).aligned d hd hflag m c ((Path.Covers.congr hkf BEq.rfl).1 hkm) hcm hcd

/-- A directory collapses when a template at its place may absorb all declared folders, which are directly inside. -/
theorem Independent.collapsible_of_absorbs (hi : Independent declared)
    (hin : ∀ f ∈ declared, f.path.LiesIn template.path) (h : ∀ f ∈ declared, Absorbs ns template f) :
    Collapsible ns declared template.path :=
  RootFold.collapsible_of_absorbs ⟨hin, fun f hf => ⟨f, hf, .refl _⟩, fun _ hf => hi.collapsible hf,
    fun _ hf => hi.represents hf, fun d hd _ => ⟨d, hd, .refl _⟩⟩ h

/-- **A template with the kind and flag of one of them** may absorb all folders inside a directory that
    collapses. -/
theorem Collapsible.absorbs (hin : Inside ns declared template.path folders)
    (h : Collapsible ns declared template.path) (hf : f ∈ folders) (hkind : template.kind = f.kind)
    (hwants : template.wantsNamespacePrefix = f.wantsNamespacePrefix) : ∀ g ∈ folders, Absorbs ns template g := by
  intro g hg
  obtain ⟨d, hd, hfd⟩ := hin.occupied f hf
  obtain ⟨e, he, hge⟩ := hin.occupied g hg
  obtain ⟨hk, hw⟩ := (hin.represents f hf).agrees d hd hfd
  obtain ⟨hk', hw'⟩ := (hin.represents g hg).agrees e he hge
  obtain ⟨hkk, hww⟩ := h.homogeneous d hd e he ((hin.liesIn f hf).covers.trans hfd)
    ((hin.liesIn g hg).covers.trans hge)
  refine ⟨by rw [hkind, ← hk, hkk, hk'], by rw [hwants, ← hw, hww, hw'], fun hflag => ?_⟩
  have hwe : e.wantsNamespacePrefix = true := by rw [← hww, hw, ← hwants, hflag]
  exact h.aligned e he hwe template.path g.path (.refl _) (hin.liesIn g hg) hge

end RootFold
