import RootFold.Path.Basic

/-!
# `RootFold.CommandLine.Arguments` — what a run is asked to do

A run is asked for one command with its options. Two options may stand in front of the command as well as after
it, where they count more. An option is given once; its value stands in the next argument, or in the same one
after an equals sign, and does not begin with a hyphen in the former case.

## Contents
- **Requests.** `Action`, `Request`, `Request.projectRoot`.
- **Options.** `OptionSpec`, `readFlag?` for one option with its value, `readOptions` for all.
- **Reading.** `Request.read`.
-/

namespace RootFold.CommandLine

/-! ## Requests -/

/-- Where namespaces come from. -/
inductive ResolverChoice where
  | mapped
  | directory
  | source
  deriving DecidableEq, Repr, Inhabited

/-- How folders are written. -/
inductive OutputFormat where
  | text
  | json
  | yaml
  deriving DecidableEq, Repr, Inhabited

/-- **A command and what only it needs.** -/
inductive Action where
  | simplify (resolver : ResolverChoice) (format : OutputFormat)
  | tree (depth : Option Nat)
  | check
  deriving DecidableEq, Repr, Inhabited

/-- **What a run is asked to do.** -/
structure Request where
  action : Action
  /-- The file that declares the folders. -/
  manifest : Path
  /-- The directory that paths are relative to, if one is named. -/
  root : Option Path
  colour : String
  logLevel : Option String
  deriving Repr, Inhabited

/-- **The directory that paths are relative to:** the one that was named, or the one the manifest is in. -/
def Request.projectRoot (r : Request) : Path :=
  r.root.getD (((r.manifest.parent?).filter (!·.isEmpty)).getD (.ofText "."))

/-- **Why arguments are no request.** -/
inductive Refusal where
  /-- They do not fit together. -/
  | usage
  /-- They ask for the version. -/
  | version
  /-- They ask for help. -/
  | help
  deriving DecidableEq, Repr, Inhabited

/-! ## Options -/

/-- **An option:** its long name, perhaps a letter, and which values it takes. -/
structure OptionSpec where
  name : String
  letter : Option Char := none
  accepts : String → Bool := fun _ => true

/-- The values of options, by their long names. -/
abbrev Values := List (String × String)

/-- The value of an option, if it was given. -/
def Values.get? (values : Values) (name : String) : Option String := (values.find? (·.1 == name)).map (·.2)

/-- A value in the next argument. -/
def nextValue? : List String → Option (String × List String)
  | [] => none
  | value :: rest => if value.toList.head? == some '-' && value != "-" then none else some (value, rest)

/-- The text before and after the first equals sign. -/
def cutAtEquals (text : List Char) : List Char × Option (List Char) :=
  match text.dropWhile (· != '=') with
  | [] => (text, none)
  | _ :: after => (text.takeWhile (· != '='), some after)

/-- What an argument that begins with a hyphen may be. -/
inductive Flag where
  /-- An option with a value, and the arguments after it. -/
  | option (spec : OptionSpec) (value : String) (rest : List String)
  | refused (refusal : Refusal)

/-- Give a value to an option, unless it takes none such or has one. -/
def withValue (spec : OptionSpec) (taken : Option (String × List String)) : Flag :=
  match taken with
  | none => .refused .usage
  | some (value, rest) => if spec.accepts value then .option spec value rest else .refused .usage

/-- An option by its long name. -/
def readLong (specs : List OptionSpec) (hasVersion : Bool) (text : List Char) (rest : List String) : Flag :=
  let (name, value) := cutAtEquals text
  match specs.find? (·.name.toList == name) with
  | some spec =>
    withValue spec <| match value with
      | some value => some (String.ofList value, rest)
      | none => nextValue? rest
  | none =>
    if text == "help".toList then .refused .help
    else if hasVersion && text == "version".toList then .refused .version
    else .refused .usage

/-- An option by its letter; what follows the letter is its value. -/
def readShort (specs : List OptionSpec) (hasVersion : Bool) (letter : Char) (text : List Char) (rest : List String) :
    Flag :=
  match specs.find? (·.letter == some letter) with
  | some spec =>
    withValue spec <| match text with
      | [] => nextValue? rest
      | '=' :: value => some (String.ofList value, rest)
      | value => some (String.ofList value, rest)
  | none =>
    if letter == 'h' then .refused .help
    else if hasVersion && letter == 'V' then .refused .version
    else .refused .usage

/-- An argument that begins with a hyphen and goes on, if it is one. -/
def readFlag? (specs : List OptionSpec) (hasVersion : Bool) (argument : String) (rest : List String) : Option Flag :=
  match argument.toList with
  | '-' :: '-' :: text => some (readLong specs hasVersion text rest)
  | '-' :: letter :: text => some (readShort specs hasVersion letter text rest)
  | _ => none

/-- **The options in front of the arguments,** and the arguments from the first that is none. `fuel` bounds their
    number. A lone pair of hyphens ends the options, and only in front of nothing. -/
def readOptions (specs : List OptionSpec) (hasVersion : Bool) (values : Values) :
    (fuel : Nat) → List String → Except Refusal (Values × List String)
  | _, [] => .ok (values, [])
  | 0, arguments => .ok (values, arguments)
  | fuel + 1, argument :: rest =>
    if argument == "--" then (if rest.isEmpty then .ok (values, []) else .error .usage)
    else
      match readFlag? specs hasVersion argument rest with
      | none => .ok (values, argument :: rest)
      | some (.refused refusal) => .error refusal
      | some (.option spec value rest) =>
        if (values.get? spec.name).isSome then .error .usage
        else readOptions specs hasVersion (values ++ [(spec.name, value)]) fuel rest

/-! ## Reading -/

/-- The words for resolvers. -/
def resolverWords : List (String × ResolverChoice) :=
  [("mapped", .mapped), ("directory", .directory), ("source", .source)]

/-- The words for output formats. -/
def formatWords : List (String × OutputFormat) := [("text", .text), ("json", .json), ("yaml", .yaml)]

/-- What a word stands for. -/
def lookUp {α : Type} (words : List (String × α)) (word : String) : Option α :=
  (words.find? (·.1 == word)).map (·.2)

/-- The largest depth that can be asked for. -/
def depthMax : Nat := Nat.pow 2 64 - 1

/-- A depth: decimal digits, perhaps after a plus sign. -/
def readDepth? (text : String) : Option Nat :=
  let digits := match text.toList with
    | '+' :: digits => digits
    | digits => digits
  if digits.isEmpty || !digits.all Char.isDigit then none
  else
    let n := digits.foldl (fun n c => n * 10 + (c.toNat - '0'.toNat)) 0
    if n ≤ depthMax then some n else none

/-- The options that may stand in front of the command. -/
def globalOptions : List OptionSpec := [⟨"color", none, fun _ => true⟩, ⟨"log-level", none, fun _ => true⟩]

/-- The options of every command. A path is not empty. -/
def commonOptions : List OptionSpec :=
  globalOptions ++ [⟨"manifest", some 'm', (!·.isEmpty)⟩, ⟨"root", none, (!·.isEmpty)⟩]

/-- The options of a command and what they make of it. -/
structure CommandSpec where
  word : String
  options : List OptionSpec
  action : Values → Action

/-- **The commands.** -/
def commands : List CommandSpec := [
  ⟨"simplify",
    [⟨"resolver", none, fun value => (lookUp resolverWords value).isSome⟩,
      ⟨"format", none, fun value => (lookUp formatWords value).isSome⟩],
    fun values => .simplify (((values.get? "resolver").bind (lookUp resolverWords)).getD .mapped)
      (((values.get? "format").bind (lookUp formatWords)).getD .text)⟩,
  ⟨"tree", [⟨"depth", none, fun value => (readDepth? value).isSome⟩],
    fun values => .tree ((values.get? "depth").bind readDepth?)⟩,
  ⟨"check", [], fun _ => .check⟩]

/-- Whether what follows the word `help` is nothing, or one command. -/
def asksHelp : List String → Bool
  | [] => true
  | [word] => word == "help" || commands.any (·.word == word)
  | _ => false

/-- The manifest that is read unless another is named. -/
def defaultManifest : String := "folders.yaml"

/-- **What the arguments of a run ask for.** -/
def Request.read (arguments : List String) : Except Refusal Request := do
  let (outer, rest) ← readOptions globalOptions true [] arguments.length arguments
  match rest with
  | [] => throw .usage
  | word :: rest =>
    match commands.find? (·.word == word) with
    | none => throw (if word == "help" && asksHelp rest then .help else .usage)
    | some command =>
      let (inner, left) ← readOptions (commonOptions ++ command.options) false [] rest.length rest
      if !left.isEmpty then throw .usage
      let values := inner ++ outer
      return {
        action := command.action values
        manifest := .ofText ((values.get? "manifest").getD defaultManifest)
        root := (values.get? "root").map Path.ofText
        colour := (values.get? "color").getD "auto"
        logLevel := values.get? "log-level" }

end RootFold.CommandLine
