import RootFold.Yaml.Token

/-!
# `RootFold.Yaml.TokenStream` — from text to tokens

Whether a scalar is a key shows only at the colon after it. A place where a key may begin is therefore kept until
the colon comes or can no longer come, and the tokens from there on are held back; a key mark goes in front of
them when it turns out to be one. Indentation opens and closes collections.

When a text cannot be read on, the tokens that were not held back still stand: the stream breaks off after them.

## Contents
- **State.** `Lexing`, with the open indentations, the possible keys and the tokens that are held back.
- **Keys.** `saveKey`, `dropKey`, `dropStaleKeys`.
- **Indentation.** `roll`, `unroll`.
- **Fetching.** `fetch` reads on by one token; `release` lets go what need not be held back.
- **Streams.** `TokenStream`, `TokenStream.ofText`.
-/

namespace RootFold.Yaml

/-- **A place where a key may begin.** -/
structure PossibleKey where
  /-- Whether nothing but a key can stand there. -/
  required : Bool
  /-- The number of the token that would be the key. -/
  tokenNumber : Nat
  mark : Mark
  deriving Repr

/-- **Where reading stands.** -/
structure Lexing where
  cursor : Cursor
  /-- The column of the innermost collection without brackets. -/
  indent : Int := -1
  /-- The columns of those around it, the innermost first. -/
  outerIndents : List Int := []
  /-- The possible key outside all brackets, or inside the innermost brackets. -/
  key : Option PossibleKey := none
  /-- The possible keys around the brackets, the innermost first. -/
  outerKeys : List (Option PossibleKey) := []
  /-- Whether a key may begin here. -/
  keyAllowed : Bool := true
  /-- The tokens that are held back. -/
  held : List Token := []
  /-- How many tokens were let go. -/
  released : Nat := 0

/-- **A step of reading:** it changes the state, and fails where the text cannot be read on. -/
abbrev LexM := StateT Lexing Option

namespace Lexing

/-- Whether the place is between brackets. -/
def inFlow (s : Lexing) : Bool := !s.outerKeys.isEmpty

/-- The column of the place. -/
def column (s : Lexing) : Nat := s.cursor.mark.column

/-- The number of the next token. -/
def nextNumber (s : Lexing) : Nat := s.released + s.held.length

end Lexing

namespace LexM

/-- The text cannot be read on. -/
def fail {α : Type} : LexM α := fun _ => none

/-- Add a token to those held back. -/
def emit (token : Token) : LexM Unit := modify fun s => { s with held := s.held ++ [token] }

/-- Put a token in front of the one of a number. -/
def emitBefore (number : Nat) (token : Token) : LexM Unit := modify fun s =>
  let place := number - s.released
  { s with held := s.held.take place ++ token :: s.held.drop place }

/-- Go on at a place. -/
def moveTo (cursor : Cursor) : LexM Unit := modify fun s => { s with cursor }

/-- Skip some characters. -/
def skip (n : Nat) : LexM Unit := modify fun s => { s with cursor := s.cursor.skip n }

/-- Whether a key may begin at the next token. -/
def allowKey (allowed : Bool) : LexM Unit := modify fun s => { s with keyAllowed := allowed }

/-! ## Keys -/

/-- The longest key, in characters. -/
def keyLimit : Nat := 1024

/-- Whether the colon after a key can no longer come: it must be on the same line and not too far away. -/
def isStale (here : Mark) (key : PossibleKey) : Bool :=
  key.mark.line < here.line || key.mark.index + keyLimit < here.index

/-- A possible key, unless it is stale; a stale one must not be required. -/
def freshKey? (here : Mark) : Option PossibleKey → Option (Option PossibleKey)
  | none => some none
  | some key =>
    if isStale here key then
      if key.required then none else some none
    else some (some key)

/-- Give up the keys whose colon can no longer come. -/
def dropStaleKeys : LexM Unit := do
  let s ← get
  let outerKeys ← (s.outerKeys.mapM (freshKey? s.cursor.mark) : Option (List (Option PossibleKey)))
  let key ← freshKey? s.cursor.mark s.key
  set { s with key, outerKeys }

/-- Give up the innermost possible key, which must not be required. -/
def dropKey : LexM Unit := do
  let s ← get
  if s.key.any (·.required) then fail
  set { s with key := none }

/-- Note that a key may begin at the next token. -/
def saveKey : LexM Unit := do
  let s ← get
  if s.keyAllowed then
    dropKey
    let required := !s.inFlow && s.indent == s.column
    modify fun s => { s with key := some ⟨required, s.nextNumber, s.cursor.mark⟩ }

/-! ## Indentation -/

/-- Open a collection at a column, unless one is open there. `number` is the token it begins in front of. -/
def roll (column : Nat) (number : Option Nat) (token : Token) : LexM Unit := do
  let s ← get
  if !s.inFlow && s.indent < column then
    set { s with indent := column, outerIndents := s.indent :: s.outerIndents }
    match number with
    | some n => emitBefore n token
    | none => emit token

/-- Close the collections that are further in than a column. -/
def closeTo (column : Int) (indent : Int) : List Int → Int × List Int × Nat
  | [] => (indent, [], 0)
  | outer :: rest =>
    if column < indent then
      let (left, outers, closed) := closeTo column outer rest
      (left, outers, closed + 1)
    else (indent, outer :: rest, 0)

/-- Close the collections that are further in than a column, unless between brackets. -/
def unroll (column : Int) : LexM Unit := modify fun s =>
  if s.inFlow then s
  else
    let (indent, outerIndents, closed) := closeTo column s.indent s.outerIndents
    { s with indent, outerIndents, held := s.held ++ List.replicate closed .blockEnd }

/-! ## Between tokens -/

/-- Skip blanks, comments and line breaks; outside brackets a key may begin after a line break. Tabs are skipped
    only where no key may begin or between brackets. A byte order mark is skipped at the beginning of a line, and
    what follows it stands in the next column. -/
def skipToToken (inFlow : Bool) (allowed inComment : Bool) : List Char → Mark → Cursor × Bool
  | [], m => (⟨[], m⟩, allowed)
  | c :: rest, m =>
    if isBreak c then skipToToken inFlow (allowed || !inFlow) false rest (m.after c)
    else if inComment then skipToToken inFlow allowed true rest (m.after c)
    else if c == '#' then skipToToken inFlow allowed true rest (m.after c)
    else if c == ' ' || (c == '\t' && (inFlow || !allowed)) || (c == '\ufeff' && m.column == 0) then
      skipToToken inFlow allowed false rest (m.after c)
    else (⟨c :: rest, m⟩, allowed)

/-- Go to the next token. -/
def goToToken : LexM Unit := modify fun s =>
  let (cursor, keyAllowed) := skipToToken s.inFlow s.keyAllowed false s.cursor.rest s.cursor.mark
  { s with cursor, keyAllowed }

/-! ## Fetching -/

/-- A mark of structure of some width. -/
def fetchMark (token : Token) (width : Nat) : LexM Unit := do
  skip width
  emit token

/-- The beginning of the next line, unless the place is the beginning of one. -/
def toNewLine (m : Mark) : Mark := if m.column = 0 then m else ⟨m.index, m.line + 1, 0⟩

/-- The end of the text, which ends the last line and closes all collections. -/
def fetchEnd : LexM Unit := do
  modify fun s => { s with cursor := ⟨[], toNewLine s.cursor.mark⟩ }
  unroll (-1)
  dropKey
  allowKey false
  emit .streamEnd

/-- A directive. -/
def fetchDirective : LexM Unit := do
  unroll (-1)
  dropKey
  allowKey false
  let (token, after) ← readDirective? (← get).cursor
  moveTo after
  emit token

/-- The mark between documents. -/
def fetchDocumentMark (token : Token) : LexM Unit := do
  unroll (-1)
  dropKey
  allowKey false
  fetchMark token 3

/-- An opening bracket. -/
def fetchOpening (token : Token) : LexM Unit := do
  saveKey
  modify fun s => { s with key := none, outerKeys := s.key :: s.outerKeys }
  allowKey true
  fetchMark token 1

/-- A closing bracket. -/
def fetchClosing (token : Token) : LexM Unit := do
  dropKey
  modify fun s => match s.outerKeys with
    | [] => s
    | key :: outerKeys => { s with key, outerKeys }
  allowKey false
  fetchMark token 1

/-- A comma between brackets. -/
def fetchFlowEntry : LexM Unit := do
  dropKey
  allowKey true
  fetchMark .flowEntry 1

/-- Open a collection at the place, outside brackets. -/
def rollHere (token : Token) : LexM Unit := do
  let s ← get
  if !s.inFlow then
    if !s.keyAllowed then fail
    roll s.column none token

/-- The hyphen in front of an entry. -/
def fetchBlockEntry : LexM Unit := do
  rollHere .blockSequenceStart
  dropKey
  allowKey true
  fetchMark .blockEntry 1

/-- The question mark in front of a key. -/
def fetchKey : LexM Unit := do
  rollHere .blockMappingStart
  dropKey
  allowKey !(← get).inFlow
  fetchMark .key 1

/-- The colon after a key, which makes a possible key one. -/
def fetchValue : LexM Unit := do
  let s ← get
  match s.key with
  | some key =>
    emitBefore key.tokenNumber .key
    roll key.mark.column (some key.tokenNumber) .blockMappingStart
    modify fun s => { s with key := none }
    allowKey false
  | none =>
    rollHere .blockMappingStart
    allowKey !s.inFlow
  fetchMark .value 1

/-- An anchor or an alias. -/
def fetchName (token : String → Token) : LexM Unit := do
  saveKey
  allowKey false
  let (name, after) ← readName? (← get).cursor
  moveTo after
  emit (token name)

/-- A tag. -/
def fetchTag : LexM Unit := do
  saveKey
  allowKey false
  let s ← get
  let (token, after) ← readTag? s.inFlow s.cursor
  moveTo after
  emit token

/-- A block scalar. -/
def fetchBlockScalar (isLiteral : Bool) : LexM Unit := do
  dropKey
  allowKey true
  let s ← get
  let (text, after) ← readBlock? s.indent isLiteral s.cursor
  moveTo after
  emit (.scalar (String.ofList text) (if isLiteral then .literal else .folded))

/-- A quoted scalar. -/
def fetchQuoted (style : ScalarStyle) : LexM Unit := do
  saveKey
  allowKey false
  let (text, after) ← readQuoted? (← get).cursor
  moveTo after
  emit (.scalar (String.ofList text) style)

/-- A plain scalar. After one that ends at a line break a key may begin. -/
def fetchPlain : LexM Unit := do
  saveKey
  allowKey false
  let s ← get
  let scalar ← readPlain? s.inFlow (s.indent + 1) s.cursor
  moveTo scalar.cursor
  if scalar.afterBreak then allowKey true
  emit (.scalar (String.ofList scalar.text) .plain)

/-- Characters that begin no plain scalar, or only in front of certain others. -/
def reserved : List Char :=
  ['-', '?', ':', ',', '[', ']', '\x7b', '\x7d', '#', '&', '*', '!', '|', '>', '\x27', '\x22', '%', '@', '\x60']

/-- Whether a plain scalar begins here. -/
def startsPlain (inFlow : Bool) : List Char → Bool
  | [] => false
  | c :: rest =>
    if c == '-' then !rest.head?.any isBlank
    else if c == '?' || c == ':' then !inFlow && !startsWithSpace rest
    else !(isBlank c || isBreak c || reserved.contains c)

/-- Fetch what a character at the place begins. -/
def fetchAt (s : Lexing) (c : Char) (rest : List Char) : LexM Unit :=
  let spaced := startsWithSpace rest
  if s.column == 0 && c == '%' then fetchDirective
  else if s.column == 0 && isDocumentMark (c :: rest) then
    fetchDocumentMark (if c == '-' then .documentStart else .documentEnd)
  else
    match c with
    | '[' => fetchOpening .flowSequenceStart
    | '\x7b' => fetchOpening .flowMappingStart
    | ']' => fetchClosing .flowSequenceEnd
    | '\x7d' => fetchClosing .flowMappingEnd
    | ',' => fetchFlowEntry
    | '*' => fetchName .alias
    | '&' => fetchName .anchor
    | '!' => fetchTag
    | '\x27' => fetchQuoted .singleQuoted
    | '\x22' => fetchQuoted .doubleQuoted
    | c =>
      if c == '-' && spaced then fetchBlockEntry
      else if c == '?' && (s.inFlow || spaced) then fetchKey
      else if c == ':' && (s.inFlow || spaced) then fetchValue
      else if c == '|' && !s.inFlow then fetchBlockScalar true
      else if c == '>' && !s.inFlow then fetchBlockScalar false
      else if startsPlain s.inFlow (c :: rest) then fetchPlain
      else fail

/-- **Read on by one token,** with what it opens and closes. -/
def fetch : LexM Unit := do
  goToToken
  dropStaleKeys
  unroll (← get).column
  let s ← get
  match s.cursor.rest with
  | [] => fetchEnd
  | c :: rest => fetchAt s c rest

/-! ## Streams -/

/-- Whether a token may turn out to be a key. -/
def Lexing.holdsBack (s : Lexing) (number : Nat) : Bool :=
  (s.key :: s.outerKeys).any fun key => key.any (·.tokenNumber == number)

/-- The tokens up to the first that may turn out to be a key, and the others. -/
def splitHeld (s : Lexing) (number : Nat) : List Token → List Token × List Token
  | [] => ([], [])
  | token :: rest =>
    if Lexing.holdsBack s number then ([], token :: rest)
    else
      let (released, held) := splitHeld s (number + 1) rest
      (token :: released, held)

/-- **Let go the tokens that need not be held back.** -/
def release : LexM (List Token) := do
  dropStaleKeys
  let s ← get
  let (out, held) := splitHeld s s.released s.held
  set { s with held, released := s.released + out.length }
  return out

end LexM

/-- **The tokens of a text,** up to its end or to where it cannot be read on. -/
structure TokenStream where
  tokens : List Token
  deriving Repr

/-- Read on until the end of the text, the first failure or `fuel` steps. Each step takes at least one character
    or comes to the end. -/
def tokensFrom : (fuel : Nat) → Lexing → List Token
  | 0, _ => []
  | fuel + 1, s =>
    match (do LexM.fetch; LexM.release : LexM (List Token)) s with
    | none => []
    | some (out, s) => if out.getLast? == some .streamEnd then out else out ++ tokensFrom fuel s

/-- **The tokens of a text.** A text with a character that is not allowed has none. -/
def TokenStream.ofText (text : String) : TokenStream :=
  match Cursor.ofText? text with
  | none => ⟨[]⟩
  | some cursor => ⟨.streamStart :: tokensFrom (cursor.rest.length + 1) { cursor, released := 1 }⟩

end RootFold.Yaml
