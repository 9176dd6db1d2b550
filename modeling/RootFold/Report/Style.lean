import RootFold.Environment
import RootFold.Folder.Basic

/-!
# `RootFold.Report.Style` — colours, labels and lines

Output is a stream of text that no terminal reads, so colours are off unless they are asked for, by an option or
by the environment. Symbols go with colours; without them a word in brackets stands instead.

## Contents
- **Styles.** `Style`, `Style.choose`.
- **Parts.** `Style.symbol`, `Style.kindLabel`, `Style.shortLabel`.
- **Lines.** `Style.folderLine`, `Style.renderText`.
-/

namespace RootFold

/-- **How output looks.** -/
structure Style where
  useColour : Bool
  deriving DecidableEq, Repr, Inhabited

namespace Style

/-- Whether the environment asks for colours. What asks for none is heard first. -/
def environmentAsks (env : Environment) : Bool :=
  !env.isSet "NO_COLOR" && env.get? "CLICOLOR" != some "0" &&
    (env.get? "CLICOLOR_FORCE").any fun value => value != "0" && !value.isEmpty

/-- **The style for an option and an environment.** Any option but `always` and `never` leaves it to the
    environment. -/
def choose (option : String) (env : Environment) : Style :=
  if option.toLower == "always" then ⟨true⟩
  else if option.toLower == "never" then ⟨false⟩
  else ⟨environmentAsks env⟩

/-- A symbol, or the words that stand for it. -/
def symbol (style : Style) (picture words : String) : String := if style.useColour then picture else words

/-- The number of a kind's colour. -/
def colourCode : FolderKind → Nat
  | .source => 32
  | .test => 36
  | .exclude => 2

/-- The width of a label. -/
def labelWidth : Nat := 7

/-- The word for a kind, filled up to the width of a label. -/
def padded (kind : FolderKind) : String :=
  kind.name ++ String.ofList (List.replicate (labelWidth - kind.name.length) ' ')

/-- **The label of a kind.** -/
def kindLabel (style : Style) (kind : FolderKind) : String :=
  if style.useColour then s!"\x1b[{colourCode kind}m{padded kind}\x1b[0m" else padded kind

/-- The label of a kind without the filling at its end. A colour ends after the filling, which then stays. -/
def shortLabel (style : Style) (kind : FolderKind) : String :=
  if style.useColour then style.kindLabel kind else kind.name

/-- **A line about a folder.** -/
def folderLine (style : Style) (f : Folder) : String :=
  s!"{style.kindLabel f.kind} {f.path}" ++ if f.wantsNamespacePrefix then " (namespace prefix)" else ""

/-- A line for each folder. -/
def renderText (style : Style) (folders : List Folder) : String :=
  String.join (folders.map fun f => style.folderLine f ++ "\n")

end Style

end RootFold
