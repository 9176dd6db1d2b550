import RootFold.CommandLine.Commands
import RootFold.CommandLine.LogFilter

/-!
# `RootFold.CommandLine.Run` — a whole run

A run is a function of its arguments, the environment and the files: it ends with a code, having written to its
output and to its log. Nothing else is read or changed.

## Contents
- **Outcomes.** `Outcome`.
- **Runs.** `run`, and `Request.places`, where it looks for files once it has read the manifest.
-/

namespace RootFold.CommandLine

/-- **How a run ends,** and what it wrote. -/
structure Outcome where
  code : Nat
  output : String
  log : String
  deriving DecidableEq, Repr, Inhabited

/-- The program's name and version. -/
def versionLine : String := "source-root-simplifier 0.1.0\n"

/-- How the program is called. -/
def usageLines : List String := [
  "Usage: source-root-simplifier [--color WHEN] [--log-level LEVEL] COMMAND [OPTIONS]",
  "",
  "Commands:",
  "  simplify  Merge the folders of a manifest into the minimal equivalent set",
  "  tree      Display the ancestry tree of a manifest's folders",
  "  check     Validate a folder manifest without merging it",
  "",
  "Options of every command: -m, --manifest FILE; --root DIR",
  "Options of simplify: --resolver mapped|directory|source; --format text|json|yaml",
  "Options of tree: --depth NUM"]

/-- The lines about how the program is called, as one text. -/
def usage : String := String.join (usageLines.map (· ++ "\n"))

/-- **Where a request looks for files,** given the manifest: the members of its folders and the files that stand
    for them, and the folders that are scanned. -/
def Request.places (request : Request) (manifest : Manifest) : List Path :=
  (manifest.folders.flatMap fun e =>
    (if e.scan.isSome then [e.path] else []) ++ e.path.join Folder.placeholder :: e.members).map
      request.projectRoot.join

/-- The variable that sets the log level. -/
def logVariable : String := "SOURCE_ROOT_SIMPLIFIER_LOG"

/-- The variables that a run looks at. -/
def variablesRead : List String := ["NO_COLOR", "CLICOLOR", "CLICOLOR_FORCE", logVariable]

/-- The log level of a request: the one it names, else that of the environment. -/
def logLevelOf (request : Request) (env : Environment) : String :=
  (request.logLevel <|> env.get? logVariable).getD "warn"

/-- The command that is asked for. -/
def commandOf (s : Setting) : CommandM Unit :=
  match s.request.action with
  | .simplify resolver format => simplifyCommand s resolver format
  | .tree depth => treeCommand s depth
  | .check => checkCommand s

/-- **Do what is asked for.** -/
def perform (request : Request) (env : Environment) (files : FileSystem) : Outcome :=
  let (filter, warnings) := LogFilter.read (logLevelOf request env)
  let setting : Setting := ⟨files, .choose request.colour env, request⟩
  let logOf (t : Trace) := String.join ((warnings ++ (t.notes.filter filter.shows).map logLine).map (· ++ "\n"))
  match commandOf setting {} with
  | .ok () t => ⟨0, t.printed, logOf t⟩
  | .error failure t => ⟨1, t.printed, logOf t ++ failure.report⟩

/-- **A whole run.** -/
def run (arguments : List String) (env : Environment) (files : FileSystem) : Outcome :=
  match Request.read arguments with
  | .error .usage => ⟨2, "", usage⟩
  | .error .help => ⟨0, usage, ""⟩
  | .error .version => ⟨0, versionLine, ""⟩
  | .ok request => perform request env files

end RootFold.CommandLine
