import RootFold.Folder.Basic

/-!
# `RootFold.Note` — remarks on the way, for the log

What the program notices while it works is data: every stage returns its notes in the order in which it made
them. A note knows how serious it is, which part of the program made it, and how it reads; whether it is shown is
decided at the end, by the log filter.

## Contents
- **Levels.** `Level`, from `error` to `trace`.
- **Notes.** `Note` with `Note.level`, `Note.topic`, `Note.message`.
- **Making notes.** `NotingM`.
-/

namespace RootFold

/-- **How serious a note is.** -/
inductive Level where
  | error
  | warn
  | info
  | debug
  | trace
  deriving DecidableEq, Repr, Inhabited

namespace Level

/-- The levels, the most serious first. -/
def all : List Level := [error, warn, info, debug, trace]

/-- The word for a level. -/
def name : Level → String
  | error => "ERROR"
  | warn => "WARN"
  | info => "INFO"
  | debug => "DEBUG"
  | trace => "TRACE"

/-- How many levels are at least as serious as this one. -/
def rank : Level → Nat
  | error => 1
  | warn => 2
  | info => 3
  | debug => 4
  | trace => 5

end Level

/-- The part of the program that a note comes from. -/
inductive Topic where
  | manifest
  | namespaces
  | compatibility
  | simplification
  | merging
  | command
  deriving DecidableEq, Repr, Inhabited

/-- The name of a topic in the log. -/
def Topic.name : Topic → String
  | manifest => "source_root_simplifier::manifest"
  | namespaces => "source_root_simplifier::namespace"
  | compatibility => "source_root_simplifier::compat"
  | simplification => "source_root_simplifier::simplify"
  | merging => "source_root_simplifier::simplify::engine"
  | command => "source_root_simplifier::commands::simplify"

/-- **Something noticed on the way.** -/
inductive Note where
  /-- A folder to be scanned is no directory. -/
  | cannotScan (base : Path)
  /-- A folder was scanned. -/
  | scanned (count : Nat) (folder : Path) (pattern : String)
  /-- A source file with a package declaration could not be read. -/
  | cannotRead (file : Path) (cause : FileError)
  /-- A folder has no namespace. -/
  | noNamespace (folder representative : Path)
  /-- A directory was given a namespace, or would have been. -/
  | placed (directory namespaceDir : Path)
  /-- A directory has no namespace to compare. -/
  | unplaced (path : Path)
  /-- A directory below this one did not become one folder. -/
  | blockedBelow (node : Path)
  /-- A folder below does not fit. -/
  | cannotAbsorb (node child : Path)
  /-- The folders below became one. -/
  | merged (node : Path) (count : Nat) (kind : FolderKind)
  /-- A pass begins. -/
  | simplifying (declared excluded lookups : Nat)
  /-- A whole tree became one folder. -/
  | collapsed (root : Path) (folder : Folder)
  /-- A pass is over. -/
  | simplified (before after : Nat)
  deriving Inhabited

namespace Note

/-- The part of the program that a note comes from. -/
def topic : Note → Topic
  | cannotScan _ | scanned .. => .manifest
  | cannotRead .. | noNamespace .. | placed .. => .namespaces
  | unplaced _ => .compatibility
  | blockedBelow _ | cannotAbsorb .. | merged .. => .merging
  | simplifying .. | collapsed .. => .simplification
  | simplified .. => .command

/-- How serious a note is. -/
def level : Note → Level
  | cannotScan _ => .warn
  | simplified .. => .info
  | placed .. | unplaced _ => .trace
  | _ => .debug

/-- The wording of a note. -/
def message : Note → String
  | cannotScan base => s!"cannot scan {base}: not a directory"
  | scanned count folder pattern => s!"scanned {count} member(s) of {folder} matching {pattern}"
  | cannotRead file cause => s!"cannot read {file} for namespace lookup: {cause.message}"
  | noNamespace folder representative => s!"no namespace for {folder} (looked up via {representative})"
  | placed directory namespaceDir => s!"namespace {directory} => {namespaceDir}"
  | unplaced path => s!"no namespace recorded for {path}"
  | blockedBelow node => s!"{node}: blocked below"
  | cannotAbsorb node child => s!"{node}: cannot absorb {child}"
  | merged node count kind => s!"{node}: merged {count} {kind} folder(s)"
  | simplifying declared excluded lookups =>
    s!"simplifying {declared} folder(s), {excluded} excluded, {lookups} namespace lookup(s)"
  | collapsed root folder => s!"{root} collapses to {folder}"
  | simplified before after => s!"{before} folder(s) simplified to {after}"

end Note

/-! ## Making notes -/

/-- **A computation that makes notes and may fail;** the notes made before a failure are kept. -/
abbrev NotingM := EStateM Error (List Note)

namespace NotingM

/-- Make notes. -/
def note (notes : List Note) : NotingM Unit := modify (· ++ notes)

/-- Fail with a cause, or go on with a value. -/
def ofExcept {α : Type} : Except Error α → NotingM α
  | .ok a => pure a
  | .error e => throw e

/-- The result and all notes. -/
def notes {α : Type} (x : NotingM α) : Except Error α × List Note :=
  match x [] with
  | .ok a notes => (.ok a, notes)
  | .error e notes => (.error e, notes)

end NotingM

end RootFold
