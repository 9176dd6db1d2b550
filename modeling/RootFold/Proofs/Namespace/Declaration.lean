import Mathlib.Data.List.TakeWhile
import RootFold.Namespace.Declaration
import RootFold.Proofs.Path.Steps

/-!
# `RootFold.Proofs.Namespace.Declaration` — a declaration that is written is the one that is found

A declaration may be written with any blanks, line ends among them, before the keyword, after it and around each
dot. `Written` is such a spelling, the blanks included, and the search gives back its identifiers whatever stands
above and after it. A line above that does not open with the keyword is passed over: either a search that starts
there fails at its first character that is not blank, or the line is blank and the search goes on below.

## Contents
- **Characters.** `IsLetter`, `IsLetterOrDigit`, and `not_continuesIdentifier_of_isBlank`.
- **Spelling.** `IsIdentifier`, `Part`, `Written`.
- **Identifiers.** `identifier?_append`, `moreIdentifiers_parts`, `at?_write`.
- **Lines.** `Opens`, `first?_line`, `first?_lines`, `first?_eq_none`, and `find?_reads_declarations`.
-/

namespace RootFold.Declaration

open Text

variable {text word line rest : List Char} {c : Char}

/-! ## Characters -/

/-- **A letter** of an identifier: an ASCII letter or an underscore. -/
def IsLetter (c : Char) : Prop := ('A' ≤ c ∧ c ≤ 'Z') ∨ ('a' ≤ c ∧ c ≤ 'z') ∨ c = '_'

/-- **A character of an identifier** after its first: a letter or an ASCII digit. -/
def IsLetterOrDigit (c : Char) : Prop := IsLetter c ∨ ('0' ≤ c ∧ c ≤ '9')

instance : DecidablePred IsLetter := fun _ => inferInstanceAs (Decidable (_ ∨ _))

instance : DecidablePred IsLetterOrDigit := fun _ => inferInstanceAs (Decidable (_ ∨ _))

theorem startsIdentifier_iff : startsIdentifier c = true ↔ IsLetter c := by
  have halpha : c.isAlpha = (decide ('A' ≤ c ∧ c ≤ 'Z') || (decide ('a' ≤ c) && decide (c ≤ 'z'))) := rfl
  rw [startsIdentifier, halpha, IsLetter]
  simp only [Bool.or_eq_true, Bool.and_eq_true, decide_eq_true_eq, beq_iff_eq, or_assoc]

theorem continuesIdentifier_iff : continuesIdentifier c = true ↔ IsLetterOrDigit c := by
  have hsplit : continuesIdentifier c = (startsIdentifier c || (decide ('0' ≤ c) && decide (c ≤ '9'))) :=
    Bool.or_right_comm c.isAlpha c.isDigit (c == '_')
  rw [hsplit, IsLetterOrDigit]
  simp only [Bool.or_eq_true, startsIdentifier_iff, Bool.and_eq_true, decide_eq_true_eq]

/-- No identifier goes on with a blank. -/
theorem not_continuesIdentifier_of_isBlank (h : isBlank c = true) : continuesIdentifier c = false := by
  simp only [isBlank, Bool.or_eq_true, Bool.and_eq_true, beq_iff_eq, decide_eq_true_eq] at h
  rcases h with (rfl | ⟨-, hhigh⟩) | hbeyond
  · decide
  · have hall : ∀ n < 14, continuesIdentifier (Char.ofNat n) = false := by decide
    have hcode : c.toNat ≤ 13 := hhigh
    rw [← Char.ofNat_toNat c]
    exact hall _ (by omega)
  · have hall : blankBeyondAscii.all (fun b => !continuesIdentifier b) = true := by decide
    simpa using List.all_eq_true.1 hall c (List.contains_iff_mem.1 hbeyond)

theorem IsLetter.not_isBlank (h : IsLetter c) : isBlank c = false := by
  refine Bool.eq_false_iff.2 fun hblank => ?_
  have hgoes : continuesIdentifier c = true := continuesIdentifier_iff.2 (.inl h)
  rw [not_continuesIdentifier_of_isBlank hblank] at hgoes
  cases hgoes

/-! ## Spelling -/

/-- **Blanks:** a text of blank characters only. -/
def IsBlanks (text : List Char) : Prop := ∀ c ∈ text, isBlank c = true

instance (text : List Char) : Decidable (IsBlanks text) := decidable_of_iff (text.all isBlank = true) List.all_eq_true

/-- **An identifier:** a letter or an underscore, then letters, digits and underscores. -/
def IsIdentifier : List Char → Prop
  | [] => False
  | first :: others => IsLetter first ∧ ∀ c ∈ others, IsLetterOrDigit c

instance : (word : List Char) → Decidable (IsIdentifier word)
  | [] => inferInstanceAs (Decidable False)
  | first :: others =>
    decidable_of_iff (IsLetter first ∧ others.all (fun c => decide (IsLetterOrDigit c)) = true) (by simp [IsIdentifier])

/-- A further identifier of a package name, with the dot in front of it and the blanks on both sides of the dot. -/
structure Part where
  before : List Char
  after : List Char
  word : List Char
  isBlanks_before : IsBlanks before
  isBlanks_after : IsBlanks after
  isIdentifier : IsIdentifier word

def Part.write (part : Part) : List Char := part.before ++ '.' :: (part.after ++ part.word)

/-- **A declaration as it is written.** -/
structure Written where
  indentation : List Char
  gap : List Char
  first : List Char
  parts : List Part
  isBlanks_indentation : IsBlanks indentation
  isBlanks_gap : IsBlanks gap
  gap_ne_nil : gap ≠ []
  isIdentifier : IsIdentifier first

namespace Written

/-- What follows the first identifier. -/
def tail (d : Written) : List Char := d.parts.flatMap Part.write

def write (d : Written) : List Char := d.indentation ++ (keyword ++ (d.gap ++ (d.first ++ d.tail)))

/-- The identifiers of the declaration. -/
def words (d : Written) : List (List Char) := d.first :: d.parts.map Part.word

/-- **The directory that a declaration stands for:** its identifiers with slashes between them. -/
def directory (d : Written) : Path := .ofText ("/".intercalate (d.words.map String.ofList))

end Written

/-! ## Identifiers -/

/-- Blanks in front of a text that begins with no blank are all that is skipped. -/
theorem skipBlanks_append (h : IsBlanks text) (hrest : ∀ c, rest.head? = some c → isBlank c = false) :
    skipBlanks (text ++ rest) = rest := by
  rw [skipBlanks, List.dropWhile_append_of_pos h]
  cases rest with
  | nil => rfl
  | cons c cs => rw [List.dropWhile_cons_of_neg (by simp [hrest c rfl])]

/-- **An identifier is read to its end,** where no character follows that could go on with it. -/
theorem identifier?_append (h : IsIdentifier word)
    (hrest : ∀ c, rest.head? = some c → continuesIdentifier c = false) :
    identifier? (word ++ rest) = some (word, rest) := by
  cases word with
  | nil => exact h.elim
  | cons first others =>
    have hfirst : startsIdentifier first = true := startsIdentifier_iff.2 h.1
    have hothers : ∀ c ∈ others, continuesIdentifier c = true := fun c hc => continuesIdentifier_iff.2 (h.2 c hc)
    have hstop : rest.takeWhile continuesIdentifier = [] ∧ rest.dropWhile continuesIdentifier = rest := by
      cases rest with
      | nil => exact ⟨rfl, rfl⟩
      | cons c cs => simp [hrest c rfl]
    rw [List.cons_append, identifier?, if_pos hfirst, List.takeWhile_append_of_pos hothers,
      List.dropWhile_append_of_pos hothers, hstop.1, hstop.2, List.append_nil]

/-- An identifier after blanks. -/
theorem identifier?_skipBlanks (hblanks : IsBlanks text) (h : IsIdentifier word)
    (hrest : ∀ c, rest.head? = some c → continuesIdentifier c = false) :
    identifier? (skipBlanks (text ++ (word ++ rest))) = some (word, rest) := by
  rw [skipBlanks_append hblanks, identifier?_append h hrest]
  intro c hc
  cases word with
  | nil => exact h.elim
  | cons first others =>
    obtain rfl : first = c := Option.some.inj hc
    exact h.1.not_isBlank

theorem moreIdentifiers_of_dot {after : List Char} (h : skipBlanks text = '.' :: after)
    (hi : identifier? (skipBlanks after) = some (word, rest)) :
    moreIdentifiers text = word :: moreIdentifiers rest := by
  rw [moreIdentifiers]
  split
  · next after' h' =>
    obtain rfl : after = after' := by simpa [h] using h'
    split
    · next word' rest' hi' =>
      obtain ⟨rfl, rfl⟩ : word = word' ∧ rest = rest' := by simpa [hi] using hi'
      rfl
    · next hi' => simp [hi] at hi'
  · next hno => exact absurd h (hno after)

theorem moreIdentifiers_of_no_dot (h : (skipBlanks text).head? ≠ some '.') : moreIdentifiers text = [] := by
  rw [moreIdentifiers]
  split
  · next after h' => exact absurd (by rw [h', List.head?_cons]) h
  · rfl

/-- Nothing that follows an identifier of a declaration could go on with it. -/
theorem not_continuesIdentifier_parts (hrest : ∀ c, rest.head? = some c → continuesIdentifier c = false)
    (parts : List Part) :
    ∀ c, (parts.flatMap Part.write ++ rest).head? = some c → continuesIdentifier c = false := by
  cases parts with
  | nil => exact hrest
  | cons part parts =>
    intro c hc
    rw [List.flatMap_cons, Part.write] at hc
    cases hbefore : part.before with
    | nil =>
      obtain rfl : '.' = c := by simpa [hbefore] using hc
      decide
    | cons b bs =>
      obtain rfl : b = c := by simpa [hbefore] using hc
      exact not_continuesIdentifier_of_isBlank (part.isBlanks_before b (by rw [hbefore]; exact .head _))

/-- **The further identifiers are read one after the other,** and none from what follows them. -/
theorem moreIdentifiers_parts (hrest : ∀ c, rest.head? = some c → continuesIdentifier c = false)
    (hdot : (skipBlanks rest).head? ≠ some '.') (parts : List Part) :
    moreIdentifiers (parts.flatMap Part.write ++ rest) = parts.map Part.word := by
  induction parts with
  | nil => exact moreIdentifiers_of_no_dot hdot
  | cons part parts ih =>
    have hskip : skipBlanks (part.before ++ '.' :: (part.after ++ (part.word ++ (parts.flatMap Part.write ++ rest)))) =
        '.' :: (part.after ++ (part.word ++ (parts.flatMap Part.write ++ rest))) :=
      skipBlanks_append part.isBlanks_before fun c hc => by
        obtain rfl : '.' = c := Option.some.inj hc
        decide
    have hword := identifier?_skipBlanks part.isBlanks_after part.isIdentifier
      (not_continuesIdentifier_parts hrest parts)
    rw [List.flatMap_cons, Part.write, List.map_cons, ← ih]
    simp only [List.append_assoc, List.cons_append]
    exact moreIdentifiers_of_dot hskip hword

/-- **A declaration at the place where it begins.** -/
theorem at?_write (d : Written) (hrest : ∀ c, rest.head? = some c → continuesIdentifier c = false)
    (hdot : (skipBlanks rest).head? ≠ some '.') : at? (d.write ++ rest) = some d.words := by
  have hindent : skipBlanks (d.write ++ rest) = keyword ++ (d.gap ++ (d.first ++ (d.tail ++ rest))) := by
    simp only [Written.write, List.append_assoc]
    refine skipBlanks_append d.isBlanks_indentation fun c hc => ?_
    obtain rfl : 'p' = c := Option.some.inj hc
    decide
  have hafter : after? keyword (keyword ++ (d.gap ++ (d.first ++ (d.tail ++ rest)))) =
      some (d.gap ++ (d.first ++ (d.tail ++ rest))) := by
    rw [after?, if_pos (List.isPrefixOf_iff_prefix.2 (List.prefix_append ..)), List.drop_left]
  obtain ⟨b, bs, hgap⟩ : ∃ b bs, d.gap = b :: bs := List.exists_cons_of_ne_nil d.gap_ne_nil
  have hhead : (d.gap ++ (d.first ++ (d.tail ++ rest))).head? = some b := by simp [hgap]
  have hblank : isBlank b = true := d.isBlanks_gap b (by rw [hgap]; exact .head _)
  have hfirst := identifier?_skipBlanks d.isBlanks_gap d.isIdentifier (not_continuesIdentifier_parts hrest d.parts)
  rw [← Written.tail] at hfirst
  simp only [at?, hindent, hafter, hhead, hblank, hfirst, Option.bind_eq_bind, Option.bind_some, if_pos]
  rw [Written.words, Written.tail, moreIdentifiers_parts hrest hdot]
  rfl

/-! ## Lines -/

/-- **A line opens a declaration** if it begins with the keyword, blanks apart. -/
def Opens (line : List Char) : Prop := keyword <+: skipBlanks line

instance (line : List Char) : Decidable (Opens line) := inferInstanceAs (Decidable (keyword <+: _))

theorem at?_eq_none (h : ¬ Opens text) : at? text = none := by
  have hafter : after? keyword (skipBlanks text) = none := by
    rw [after?, if_neg fun hprefix => h (List.isPrefixOf_iff_prefix.1 hprefix)]
  rw [at?, hafter]
  rfl

/-- A word that begins a line and what follows begins the line, unless it reaches beyond its end. -/
theorem prefix_of_prefix_append_cons (h : word <+: text ++ c :: rest) (hc : c ∉ word) : word <+: text := by
  rcases Nat.le_total word.length text.length with hle | hle
  · exact List.prefix_of_prefix_length_le h (List.prefix_append ..) hle
  · obtain ⟨more, rfl⟩ := List.prefix_of_prefix_length_le (List.prefix_append text (c :: rest)) h hle
    cases more with
    | nil => simp
    | cons m more =>
      obtain ⟨rfl, -⟩ := List.cons_prefix_cons.1 ((List.prefix_append_right_inj text).1 h)
      exact absurd (List.mem_append_right _ (.head _)) hc

/-- **A line that opens nothing:** no declaration begins there, unless the line is blank and one begins below. -/
theorem at?_line (h : ¬ Opens line) (text : List Char) :
    at? (line ++ '\n' :: text) = none ∨ at? (line ++ '\n' :: text) = at? text := by
  by_cases hblank : IsBlanks line
  · have hskip : skipBlanks (line ++ '\n' :: text) = skipBlanks text := by
      rw [skipBlanks, List.dropWhile_append_of_pos hblank, List.dropWhile_cons_of_pos (by decide), skipBlanks]
    exact .inr (by simp only [at?, hskip])
  · refine .inl (at?_eq_none fun hopens => h ?_)
    have hskip : skipBlanks (line ++ '\n' :: text) = skipBlanks line ++ '\n' :: text := by
      rw [skipBlanks, List.dropWhile_append, if_neg, skipBlanks]
      rw [List.isEmpty_iff, List.dropWhile_eq_nil_iff]
      exact hblank
    rw [Opens, hskip] at hopens
    exact prefix_of_prefix_append_cons hopens (by decide)

theorem later_line (hline : '\n' ∉ line) (text : List Char) : lines.later (line ++ '\n' :: text) = lines text := by
  induction line with
  | nil => rfl
  | cons c cs ih =>
    obtain ⟨hc, hcs⟩ := not_or.1 (mt List.mem_cons.2 hline)
    rw [List.cons_append, lines.later, ih hcs]
    exact fun heq => hc heq.symm

theorem later_of_no_feed (hline : '\n' ∉ line) : lines.later line = [] := by
  induction line with
  | nil => rfl
  | cons c cs ih =>
    obtain ⟨hc, hcs⟩ := not_or.1 (mt List.mem_cons.2 hline)
    rw [lines.later, ih hcs]
    exact fun heq => hc heq.symm

/-- The identifiers of the first declaration. -/
def first? (text : List Char) : Option (List (List Char)) := (lines text).findSome? at?

/-- **A line that opens nothing is passed over.** -/
theorem first?_line (hline : '\n' ∉ line) (h : ¬ Opens line) (text : List Char) :
    first? (line ++ '\n' :: text) = first? text := by
  have hcons : first? (line ++ '\n' :: text) = (at? (line ++ '\n' :: text)).or (first? text) := by
    rw [first?, lines, later_line hline, List.findSome?_cons, first?]
    cases at? (line ++ '\n' :: text) <;> rfl
  have hfirst : first? text = (at? text).or ((lines.later text).findSome? at?) := by
    rw [first?, lines, List.findSome?_cons]
    cases at? text <;> rfl
  rcases at?_line h text with hnone | hbelow
  · rw [hcons, hnone, Option.none_or]
  · rw [hcons, hbelow, hfirst, ← Option.or_assoc, Option.or_self]

/-- **Lines that open nothing are passed over.** -/
theorem first?_lines {above : List (List Char)} (h : ∀ line ∈ above, '\n' ∉ line ∧ ¬ Opens line) (text : List Char) :
    first? (above.flatMap (· ++ ['\n']) ++ text) = first? text := by
  induction above with
  | nil => rfl
  | cons line above ih =>
    obtain ⟨hline, habove⟩ := List.forall_mem_cons.1 h
    have hsplit : (line :: above).flatMap (· ++ ['\n']) ++ text =
        line ++ '\n' :: (above.flatMap (· ++ ['\n']) ++ text) := by
      simp
    rw [hsplit, first?_line hline.1 hline.2, ih habove]

/-- **A text in which no line opens a declaration has none.** -/
theorem first?_eq_none {text : List Char} (h : ∀ line ∈ text.splitOn '\n', ¬ Opens line) : first? text = none := by
  by_cases hfeed : '\n' ∈ text
  · obtain ⟨line, below, rfl, hline⟩ := List.eq_append_cons_of_mem hfeed
    rw [List.splitOn_append_cons_self, List.splitOn_eq_singleton hline] at h
    obtain ⟨hopens, hbelow⟩ := List.forall_mem_cons.1 h
    have : below.length < (line ++ '\n' :: below).length := by simp; omega
    rw [first?_line hline hopens, first?_eq_none hbelow]
  · rw [List.splitOn_eq_singleton hfeed] at h
    rw [first?, lines, later_of_no_feed hfeed, List.findSome?_cons, at?_eq_none (h text (.head _)), List.findSome?_nil]
termination_by text.length

theorem find?_eq (source : String) :
    find? source = (first? source.toList).map fun words => .ofText ("/".intercalate (words.map String.ofList)) := by
  rw [find?, first?]
  congr 1
  funext words
  rw [← Path.ofComponents_names, List.map_map]
  rfl

/-- **Every declaration is read as it was written,** below lines that open none, in front of any text that does not go
    on with its last identifier or with a dot; and a text in which no line opens a declaration has none. -/
theorem find?_reads_declarations :
    (∀ (above : List (List Char)) (d : Written) (rest : List Char),
      (∀ line ∈ above, '\n' ∉ line ∧ ¬ Opens line) →
      (∀ c, rest.head? = some c → ¬ IsLetterOrDigit c) →
      (skipBlanks rest).head? ≠ some '.' →
      find? (String.ofList (above.flatMap (· ++ ['\n']) ++ (d.write ++ rest))) = some d.directory) ∧
    ∀ source : String, (∀ line ∈ source.toList.splitOn '\n', ¬ Opens line) → find? source = none := by
  constructor
  · intro above d rest habove hrest hdot
    have hends : ∀ c, rest.head? = some c → continuesIdentifier c = false := fun c hc =>
      Bool.eq_false_iff.2 (mt continuesIdentifier_iff.1 (hrest c hc))
    have hfirst : first? (d.write ++ rest) = some d.words := by
      rw [first?, lines, List.findSome?_cons, at?_write d hends hdot]
    rw [find?_eq, String.toList_ofList, first?_lines habove, hfirst]
    rfl
  · intro source h
    rw [find?_eq, first?_eq_none h]
    rfl

/-- A declaration on three lines, with a blank line above its keyword. -/
def spread : Written where
  indentation := ['\n', ' ']
  gap := ['\t', '\n']
  first := "org".toList
  parts := [⟨[' '], ['\n'], "example".toList, by decide, by decide, by decide⟩,
    ⟨[], [], "util_2".toList, by decide, by decide, by decide⟩]
  isBlanks_indentation := by decide
  isBlanks_gap := by decide
  gap_ne_nil := by decide
  isIdentifier := by decide

theorem find?_reads_declarations_spread :
    find? "// a package of tools\n\n package\t\norg .\nexample.util_2 ;\n" = some (.ofText "org/example/util_2") ∧
      find? "import package;\n" = none := by
  have habove : ∀ line ∈ ["// a package of tools".toList], '\n' ∉ line ∧ ¬ Opens line := by decide +kernel
  have hspread := find?_reads_declarations.1 _ spread " ;\n".toList habove (by simp; decide) (by decide)
  exact ⟨hspread, find?_reads_declarations.2 "import package;\n" (by decide +kernel)⟩

end RootFold.Declaration
