import RootFold.Glob.Pattern
import RootFold.Path.Basic

/-!
# `RootFold.Glob.Match` — which texts a pattern matches

A pattern matches a text as a whole. Case matters, a leading dot is nothing special, and `?`, `*` and classes
match a slash like any other character. `**` takes up whole directories: nothing, everything up to and including
some slash, or all that is left.

## Contents
- **One character.** `Token.matchesChar`.
- **Texts.** `Glob.matchesFrom` by recursion on the tokens; `Pattern.matchesText`, `Pattern.matchesPath`.
-/

namespace RootFold.Glob

/-- Whether a token that stands for one character stands for this one. -/
def Token.matchesChar (c : Char) : Token → Bool
  | .char d => c == d
  | .anyChar => true
  | .within ranges => ranges.any (·.contains c)
  | .except ranges => !ranges.any (·.contains c)
  | .anyText => false
  | .anyDirectories => false

/-- All ends of a text, from the whole to nothing. -/
def ends : List Char → List (List Char)
  | [] => [[]]
  | c :: rest => (c :: rest) :: ends rest

/-- What can be left of a text once whole directories are taken from its front. -/
def endsBelowDirectories (text : List Char) : List (List Char) := text :: below text
where
  /-- The ends that follow a slash, and the empty one. -/
  below : List Char → List (List Char)
    | [] => [[]]
    | '/' :: rest => rest :: below rest
    | _ :: rest => below rest

/-- **Whether the tokens match the whole text.** -/
def matchesFrom : List Token → List Char → Bool
  | [], text => text.isEmpty
  | .anyText :: tokens, text => (ends text).any fun rest => matchesFrom tokens rest
  | .anyDirectories :: tokens, text => (endsBelowDirectories text).any fun rest => matchesFrom tokens rest
  | _ :: _, [] => false
  | token :: tokens, c :: rest => token.matchesChar c && matchesFrom tokens rest

namespace Pattern

/-- Whether a pattern matches a text. -/
def matchesText (pattern : Pattern) (text : String) : Bool := matchesFrom pattern.tokens text.toList

/-- Whether a pattern matches the text of a path. -/
def matchesPath (pattern : Pattern) (p : Path) : Bool := pattern.matchesText p.text

end Pattern

end RootFold.Glob
