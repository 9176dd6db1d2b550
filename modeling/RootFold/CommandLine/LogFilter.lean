import RootFold.Note
import RootFold.Regex.Basic
import RootFold.Text.Blank

/-!
# `RootFold.CommandLine.LogFilter` — which notes are shown

A filter is a list of directives between commas. A directive is a level, a topic, or both with an equals sign
between; it lets notes up to its level through, of all topics whose name begins with the given one. Of several
that fit, the one with the longest name counts. After a slash may follow a regular expression that must match
somewhere in a note.

## Contents
- **Filters.** `Directive`, `LogFilter`, `LogFilter.shows`.
- **Reading.** `LogFilter.read`, with warnings about what cannot be read.
- **Lines.** `Note.logLine`.
-/

namespace RootFold.CommandLine

/-- **A directive:** the name that a topic begins with, and the greatest rank of level that is shown. -/
structure Directive where
  name : Option String
  rank : Nat
  deriving DecidableEq, Repr

/-- **Which notes are shown.** -/
structure LogFilter where
  directives : List Directive
  /-- What must match somewhere in a note. -/
  contained : Option Regex

namespace LogFilter

/-- The length of a directive's name, in bytes. -/
def nameLength (d : Directive) : Nat := (d.name.map (·.utf8ByteSize)).getD 0

/-- Whether a directive is about a topic. -/
def concerns (d : Directive) (topic : String) : Bool := d.name.all fun name => topic.startsWith name

/-- The directive that counts for a topic: of those about it, one with the longest name, and of these the last. -/
def directiveFor (directives : List Directive) (topic : String) : Option Directive :=
  (directives.filter (concerns · topic)).foldl
    (fun best d => if best.all (nameLength · ≤ nameLength d) then some d else best) none

/-- **Whether a note is shown.** -/
def shows (filter : LogFilter) (note : Note) : Bool :=
  (directiveFor filter.directives note.topic.name).any (note.level.rank ≤ ·.rank) &&
    filter.contained.all (·.occursIn note.message)

/-! ## Reading -/

/-- The greatest rank that a word lets through; `off` lets nothing through. Case does not matter. -/
def rank? (word : String) : Option Nat :=
  if word.toUpper == "OFF" then some 0
  else (Level.all.find? (·.name == word.toUpper)).map Level.rank

/-- The rank that lets everything through. -/
def fullRank : Nat := Level.trace.rank

/-- A text without blanks at its ends. -/
def trim (text : List Char) : List Char := (Text.skipBlanks (Text.skipBlanks text).reverse).reverse

/-- A directive, or the part of its text that cannot be read. -/
def readDirective (text : List Char) : Except String Directive :=
  match text.splitOn '=' with
  | [word] =>
    let word := String.ofList word
    match rank? word with
    | some rank => .ok ⟨none, rank⟩
    | none => .ok ⟨some word, fullRank⟩
  | [name, level] =>
    let level := String.ofList (trim level)
    if level.isEmpty then .ok ⟨some (String.ofList name), fullRank⟩
    else
      match rank? level with
      | some rank => .ok ⟨some (String.ofList name), rank⟩
      | none => .error level
  | _ => .error (String.ofList text)

/-- Add a directive; one of the same name gives way to it. -/
def addDirective (directives : List Directive) (d : Directive) : List Directive :=
  if directives.any (·.name == d.name) then directives.map fun e => if e.name == d.name then d else e
  else directives ++ [d]

/-- The filter that lets through errors alone. -/
def standard : List Directive := [⟨none, Level.error.rank⟩]

/-- The directives of a text and the warnings about those that cannot be read. -/
def readDirectives (text : List Char) : List Directive × List String :=
  let parts := ((text.splitOn ',').map trim).filter (!·.isEmpty)
  let read := parts.map readDirective
  (read.foldl (fun ds d => d.toOption.elim ds (addDirective ds)) [],
    read.filterMap fun
      | .ok _ => none
      | .error part => some s!"warning: invalid logging spec '{part}', ignoring it")

/-- What must match in a note, if it can be read, and the warning if it cannot. -/
def readContained (text : List Char) : Option Regex × List String :=
  match Regex.read (String.ofList text) with
  | .ok regex => (some regex, [])
  | .error refusal => (none, [s!"warning: invalid regex filter - {refusal.message}, ignoring it"])

/-- **A filter and the warnings** about what cannot be read of it. -/
def read (text : String) : LogFilter × List String :=
  match text.toList.splitOn '/' with
  | [parts] =>
    let (directives, warnings) := readDirectives parts
    (⟨if directives.isEmpty then standard else directives, none⟩, warnings)
  | [parts, contained] =>
    let (directives, warnings) := readDirectives parts
    let (contained, more) := readContained contained
    (⟨if directives.isEmpty then standard else directives, contained⟩, warnings ++ more)
  | _ => (⟨standard, none⟩, [s!"warning: invalid logging spec '{text}' (too many '/'s), ignoring it"])

end LogFilter

/-! ## Lines -/

/-- A level's name, filled up to the length of the longest. -/
def paddedLevel (level : Level) : String :=
  level.name ++ String.ofList (List.replicate (5 - level.name.length) ' ')

/-- **A note as a line of the log.** Later lines of a note are indented. -/
def logLine (note : Note) : String :=
  let text := String.ofList (note.message.toList.flatMap fun c => if c == '\n' then "\n    ".toList else [c])
  s!"[{paddedLevel note.level} {note.topic.name}] {text}"

end RootFold.CommandLine
