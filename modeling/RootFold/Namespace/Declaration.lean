import RootFold.Path.Nesting
import RootFold.Text.Blank

/-!
# `RootFold.Namespace.Declaration` — package declarations in source text

A declaration is the word `package` at the beginning of a line, blanks apart, followed by a blank and by
identifiers with dots between them. Blanks, line ends among them, may stand around every part. Nothing is known
about comments or strings: the first line that reads like a declaration is one.

## Contents
- **Identifiers.** `Declaration.identifier?`, `Declaration.moreIdentifiers`.
- **Declarations.** `Declaration.at?` reads one at a given place; `Declaration.find?` looks for the first line
  that begins with one and gives the directory that stands for the package.
-/

namespace RootFold.Declaration

open Text

/-! ## Identifiers -/

/-- Whether an identifier may begin with the character: an ASCII letter or an underscore. -/
def startsIdentifier (c : Char) : Bool := c.isAlpha || c == '_'

/-- Whether an identifier may go on with the character: an ASCII letter or digit or an underscore. -/
def continuesIdentifier (c : Char) : Bool := c.isAlphanum || c == '_'

/-- **The identifier a text begins with,** as long as possible, and what follows it. -/
def identifier? : List Char → Option (List Char × List Char)
  | [] => none
  | c :: rest =>
    if startsIdentifier c then
      some (c :: rest.takeWhile continuesIdentifier, rest.dropWhile continuesIdentifier)
    else none

theorem length_of_identifier? {text word rest : List Char} (h : identifier? text = some (word, rest)) :
    rest.length < text.length := by
  cases text with
  | nil => simp [identifier?] at h
  | cons c cs =>
    simp only [identifier?] at h
    split at h
    · obtain ⟨_, rfl⟩ := Prod.mk.inj (Option.some.inj h)
      have := (List.dropWhile_suffix (l := cs) continuesIdentifier).length_le
      simp only [List.length_cons]
      omega
    · simp at h

/-- The identifiers that follow, each after a dot. -/
def moreIdentifiers (text : List Char) : List (List Char) :=
  match _h : skipBlanks text with
  | '.' :: after =>
    match _hi : identifier? (skipBlanks after) with
    | some (word, rest) => word :: moreIdentifiers rest
    | none => []
  | _ => []
termination_by text.length
decreasing_by
  have h₁ := length_skipBlanks_le text
  have h₂ := length_skipBlanks_le after
  have h₃ := length_of_identifier? _hi
  rw [_h] at h₁
  simp only [List.length_cons] at h₁
  omega

/-! ## Declarations -/

/-- The word that begins a declaration. -/
def keyword : List Char := "package".toList

/-- The text after a word, if it begins with it. -/
def after? (word text : List Char) : Option (List Char) :=
  if word.isPrefixOf text then some (text.drop word.length) else none

/-- **The identifiers of the declaration that a text begins with,** if it begins with one. -/
def at? (text : List Char) : Option (List (List Char)) := do
  let afterKeyword ← after? keyword (skipBlanks text)
  let c ← afterKeyword.head?
  if isBlank c then
    let (first, rest) ← identifier? (skipBlanks afterKeyword)
    return first :: moreIdentifiers rest
  else none

/-- The text and what follows each of its line feeds. -/
def lines (text : List Char) : List (List Char) := text :: later text
where
  /-- What follows each line feed. -/
  later : List Char → List (List Char)
    | [] => []
    | '\n' :: rest => rest :: later rest
    | _ :: rest => later rest

/-- **The directory that stands for the package declared in a source text,** if there is a declaration. -/
def find? (source : String) : Option Path :=
  ((lines source.toList).findSome? at?).map fun words =>
    Path.ofComponents (words.map fun word => .name (String.ofList word))

end RootFold.Declaration
