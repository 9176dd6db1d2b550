/-!
# `RootFold.Glob.Pattern` — wildcard patterns and how they are read

A pattern is read into a list of tokens. `?` stands for one character and `*` for any text, slashes included;
`[...]` is a class of characters and `[!...]` its complement; `**` stands for whole directories and must fill a
path component.

## Contents
- **Tokens.** `Glob.Token`, `Glob.Range`.
- **Failure.** `Glob.PatternError` with its position, counted in characters, and its wording.
- **Reading.** `Glob.Pattern.read` gives the tokens or the first fault.
-/

namespace RootFold.Glob

/-- One entry of a character class; a single character is a range of one. -/
structure Range where
  first : Char
  last : Char
  deriving DecidableEq, Repr

/-- Whether a character lies in a range. -/
def Range.contains (r : Range) (c : Char) : Bool := r.first ≤ c && c ≤ r.last

/-- **What a pattern is made of.** -/
inductive Token where
  /-- The character itself. -/
  | char (c : Char)
  /-- `?`: any one character. -/
  | anyChar
  /-- `*`: any text. -/
  | anyText
  /-- `**`: any number of whole directories. -/
  | anyDirectories
  /-- `[...]`: one character of the class. -/
  | within (ranges : List Range)
  /-- `[!...]`: one character outside the class. -/
  | except (ranges : List Range)
  deriving DecidableEq, Repr

/-- What can be wrong with a pattern. -/
inductive PatternFault where
  /-- Three or more stars in a row. -/
  | tooManyStars
  /-- `**` beside other characters of the same component. -/
  | partOfComponent
  /-- A class that is not closed. -/
  | invalidRange
  deriving DecidableEq, Repr

/-- The wording of a fault. -/
def PatternFault.message : PatternFault → String
  | tooManyStars => "wildcards are either regular `*` or recursive `**`"
  | partOfComponent => "recursive wildcards must form a single path component"
  | invalidRange => "invalid range pattern"

/-- **A fault and where it was found.** -/
structure PatternError where
  position : Nat
  fault : PatternFault
  deriving DecidableEq, Repr

/-- The wording of a pattern error. -/
def PatternError.message (e : PatternError) : String :=
  s!"Pattern syntax error near position {e.position}: {e.fault.message}"

/-- A pattern: its text and its tokens. -/
structure Pattern where
  text : String
  tokens : List Token
  deriving Repr

namespace Pattern

/-- The entries of a class. `a-b` is a range; anything else stands for itself. -/
def readClass : List Char → List Range
  | a :: '-' :: b :: rest => ⟨a, b⟩ :: readClass rest
  | a :: rest => ⟨a, a⟩ :: readClass rest
  | [] => []

/-- The text of a class and what follows its closing bracket. The first character never closes it. -/
def splitClass : List Char → Option (List Char × List Char)
  | [] => none
  | first :: rest =>
    match rest.dropWhile (· != ']') with
    | [] => none
    | _ :: after => some (first :: rest.takeWhile (· != ']'), after)

/-- A class after its opening bracket, and what follows it. -/
def readBracket : List Char → Option (Token × List Char)
  | '!' :: rest => (splitClass rest).map fun (body, after) => (.except (readClass body), after)
  | rest => (splitClass rest).map fun (body, after) => (.within (readClass body), after)

theorem length_of_splitClass {cs body after : List Char} (h : splitClass cs = some (body, after)) :
    after.length < cs.length := by
  cases cs with
  | nil => simp [splitClass] at h
  | cons first rest =>
    simp only [splitClass] at h
    split at h
    · simp at h
    · next c after' hd =>
      obtain ⟨_, rfl⟩ := Prod.mk.inj (Option.some.inj h)
      have hle := (List.dropWhile_suffix (l := rest) (· != ']')).length_le
      rw [hd] at hle
      simp only [List.length_cons] at hle ⊢
      omega

theorem length_of_readBracket {cs after : List Char} {t : Token} (h : readBracket cs = some (t, after)) :
    after.length < cs.length := by
  unfold readBracket at h
  split at h
  · next rest =>
    obtain ⟨⟨body, after'⟩, hs, he⟩ := Option.map_eq_some_iff.1 h
    obtain ⟨_, rfl⟩ := Prod.mk.inj he
    have := length_of_splitClass hs
    simp only [List.length_cons]
    omega
  · obtain ⟨⟨body, after'⟩, hs, he⟩ := Option.map_eq_some_iff.1 h
    obtain ⟨_, rfl⟩ := Prod.mk.inj he
    exact length_of_splitClass hs

/-- Add `**` to the tokens read so far. One that follows another does not count, unless that other is the very
    first token. -/
def addDirectories (done : List Token) : List Token :=
  match done with
  | .anyDirectories :: _ :: _ => done
  | _ => .anyDirectories :: done

/-- **Read a pattern from `position` on.** `before` is the character in front, if any, and `done` holds the
    tokens read so far, last one first. -/
def readFrom (position : Nat) (before : Option Char) (done : List Token) :
    List Char → Except PatternError (List Token)
  | [] => .ok done.reverse
  | '?' :: rest => readFrom (position + 1) (some '?') (.anyChar :: done) rest
  | '*' :: '*' :: '*' :: _ => .error ⟨position + 2, .tooManyStars⟩
  | '*' :: '*' :: rest =>
    if before.all (· == '/') then
      match rest with
      | [] => .ok (addDirectories done).reverse
      | '/' :: rest => readFrom (position + 3) (some '/') (addDirectories done) rest
      | _ => .error ⟨position + 2, .partOfComponent⟩
    else .error ⟨position - 1, .partOfComponent⟩
  | '*' :: rest => readFrom (position + 1) (some '*') (.anyText :: done) rest
  | '[' :: rest =>
    match h : readBracket rest with
    | some (token, after) =>
      readFrom (position + 1 + (rest.length - after.length)) (some ']') (token :: done) after
    | none => .error ⟨position, .invalidRange⟩
  | c :: rest => readFrom (position + 1) (some c) (.char c :: done) rest
termination_by cs => cs.length
decreasing_by
  all_goals simp only [List.length_cons]
  any_goals omega
  have hlen := length_of_readBracket h
  omega

/-- **Read a pattern.** -/
def read (text : String) : Except PatternError Pattern :=
  (readFrom 0 none [] text.toList).map (⟨text, ·⟩)

end Pattern

end RootFold.Glob
