import RootFold.Regex.Tree
import RootFold.Unicode.CaseFolding
import RootFold.Unicode.Property
import RootFold.Unicode.Script

/-!
# `RootFold.Regex.CharClass` — the characters that sets and properties stand for

Where Unicode is in force, classes are those of Unicode and case is folded by its rules; elsewhere everything is
about ASCII, and a set that would let in other octets has no meaning. Case is folded before a set is negated.

## Contents
- **Flags.** `Flags`, `Flags.after`.
- **Classes.** `CharClass`, and what can be made of them.
- **Names.** `looseName`, `PropertyQuery.charClass`.
- **Sets.** `CharSet.charClass`.
-/

namespace RootFold.Regex

open Unicode

/-! ## Flags -/

/-- **The flags in force.** Those that only concern reading, or which of several matches is taken, are left out. -/
structure Flags where
  ignoreCase : Bool := false
  multiLine : Bool := false
  dotMatchesBreaks : Bool := false
  carriageReturns : Bool := false
  unicode : Bool := true
  deriving DecidableEq, Repr

/-- The flags after a change. -/
def Flags.after (flags : Flags) (change : FlagChange) : Flags where
  ignoreCase := (change.state? .ignoreCase).getD flags.ignoreCase
  multiLine := (change.state? .multiLine).getD flags.multiLine
  dotMatchesBreaks := (change.state? .dotMatchesBreaks).getD flags.dotMatchesBreaks
  carriageReturns := (change.state? .carriageReturns).getD flags.carriageReturns
  unicode := (change.state? .unicode).getD flags.unicode

/-! ## Classes -/

/-- **A class of characters:** which are in it, about how many ranges of octets it takes to write them out, and
    whether they are all in ASCII. -/
structure CharClass where
  contains : Char → Bool
  weight : Nat
  isAscii : Bool

namespace CharClass

/-- The characters from one to another. -/
def range (first last : Char) : CharClass := ⟨fun c => first ≤ c && c ≤ last, last.utf8Size, last.toNat < 0x80⟩

/-- A single character. -/
def single (c : Char) : CharClass := ⟨(· == c), c.utf8Size, c.toNat < 0x80⟩

/-- A class of characters beyond ASCII, by the number of their ranges, each of which takes about two of octets. -/
def wide (ranges : Nat) (contains : Char → Bool) : CharClass := ⟨contains, 2 * ranges, false⟩

/-- A class of ASCII. -/
def narrow (ranges : Nat) (contains : Char → Bool) : CharClass := ⟨fun c => c.toNat < 0x80 && contains c, ranges, true⟩

/-- All other characters. To go through all of them takes about 28 ranges of octets. -/
def complement (k : CharClass) : CharClass := ⟨fun c => !k.contains c, k.weight + 28, false⟩

/-- The characters of any of several classes. -/
def union (classes : List CharClass) : CharClass where
  contains := fun c => classes.any (·.contains c)
  weight := classes.foldl (· + ·.weight) 0
  isAscii := classes.all (·.isAscii)

/-- Two classes combined. -/
def combine (operation : SetOperation) (k l : CharClass) : CharClass :=
  let weight := k.weight + l.weight
  match operation with
  | .intersection => ⟨fun c => k.contains c && l.contains c, weight, k.isAscii || l.isAscii⟩
  | .difference => ⟨fun c => k.contains c && !l.contains c, weight, k.isAscii⟩
  | .symmetricDifference => ⟨fun c => k.contains c != l.contains c, weight, k.isAscii && l.isAscii⟩

/-- The variants of a character that case makes, as far as the flags look at them. -/
def variants (flags : Flags) (c : Char) : List Char :=
  if !flags.ignoreCase then [c] else if flags.unicode then caseVariants c else [c, c.toLower, c.toUpper]

/-- A class with all variants of its characters. -/
def fold (flags : Flags) (k : CharClass) : CharClass :=
  if flags.ignoreCase then { k with contains := fun c => (variants flags c).any k.contains } else k

end CharClass

/-- Whether a character is a digit, a blank or part of a word. -/
def ShortClass.contains (unicode : Bool) : ShortClass → Char → Bool
  | digit, c => if unicode then Category.decimalNumber.contains c else c.isDigit
  | space, c => if unicode then Text.isBlank c else c == ' ' || ('\t' ≤ c && c ≤ '\r')
  | word, c => if unicode then isWord c else c.isAlphanum || c == '_'

/-- About how many ranges of octets a class takes, or all other characters. -/
def ShortClass.weight (unicode negated : Bool) : ShortClass → Nat
  | digit => if !unicode then 1 else if negated then 400 else 160
  | space => if !unicode then 2 else if negated then 58 else 20
  | word => if !unicode then 4 else if negated then 1464 else 1570

/-- The class of a letter. -/
def ShortClass.charClass (flags : Flags) (k : ShortClass) : CharClass :=
  ⟨k.contains flags.unicode, k.weight flags.unicode false, !flags.unicode⟩

/-- Whether a character is in a class of ASCII. -/
def PosixClass.contains : PosixClass → Char → Bool
  | alnum, c => c.isAlphanum
  | alpha, c => c.isAlpha
  | ascii, _ => true
  | blank, c => c == ' ' || c == '\t'
  | cntrl, c => c < ' ' || c == '\x7f'
  | digit, c => c.isDigit
  | graph, c => ' ' < c && c < '\x7f'
  | lower, c => c.isLower
  | print, c => ' ' ≤ c && c < '\x7f'
  | punct, c => ' ' < c && c < '\x7f' && !c.isAlphanum
  | space, c => c == ' ' || ('\t' ≤ c && c ≤ '\r')
  | upper, c => c.isUpper
  | word, c => c.isAlphanum || c == '_'
  | xdigit, c => c.isDigit || ('a' ≤ c && c ≤ 'f') || ('A' ≤ c && c ≤ 'F')

/-! ## Names -/

/-- **A name as names are compared:** in small letters, without blanks, hyphens and underscores, without what is not
    ASCII, and without `is` in front. -/
def looseName (name : String) : String :=
  let bare := name.toList
  let hasIs := (bare.take 2).map Char.toLower == ['i', 's']
  let kept := (if hasIs then bare.drop 2 else bare).filter fun c =>
    c.toNat < 0x80 && c != ' ' && c != '-' && c != '_'
  let loose := String.ofList (kept.map Char.toLower)
  if hasIs && loose == "c" then "isc" else loose

/-- Names that are those of a category, though also properties are called so. -/
def categoryFirst : List String := ["cf", "sc", "lc"]

/-- The class of some categories. -/
def classOfCategories (categories : List Category) : CharClass :=
  .wide (categories.foldl (· + ·.ranges.size) 0) (isIn categories)

/-- The class of a value of the general category. Surrogates are no characters. -/
def classOfCategory? (name : String) : Except Cause (Option CharClass) :=
  if name == "cs" || name == "surrogate" then .error .unknownPropertyValue
  else if name == "ascii" then .ok (some (.range '\x00' '\x7f'))
  else .ok ((Category.named? name).map classOfCategories)

/-- The class of a script. -/
def classOfScript (s : Script) : CharClass :=
  let ranges := s.ranges
  .wide ranges.size ranges.contains

/-- The class of a property, a category or a script, by its name. -/
def classOfName (name : String) : Except Cause CharClass := do
  match if categoryFirst.contains name then none else Property.named? name with
  | some property => return .wide 400 property.holds
  | none =>
    match ← classOfCategory? name with
    | some k => return k
    | none =>
      match Script.named? name with
      | some s => return classOfScript s
      | none => throw .unknownProperty

/-- Names of further properties, none of whose values has a class. -/
def otherValued : List String :=
  ["age", "bidiclass", "bc", "bidimirroringglyph", "bmg", "bidipairedbracket", "bpb", "bidipairedbrackettype", "bpt",
   "block", "blk", "canonicalcombiningclass", "ccc", "casefolding", "cf", "decompositionmapping", "dm",
   "decompositiontype", "dt", "eastasianwidth", "ea", "graphemeclusterbreak", "gcb", "hangulsyllabletype", "hst",
   "indicpositionalcategory", "inpc", "indicsyllabiccategory", "insc", "jamoshortname", "jsn", "joininggroup", "jg",
   "joiningtype", "jt", "linebreak", "lb", "lowercasemapping", "lc", "name", "na", "numerictype", "nt",
   "numericvalue", "nv", "sentencebreak", "sb", "simplecasefolding", "scf", "simplelowercasemapping", "slc",
   "simpletitlecasemapping", "stc", "simpleuppercasemapping", "suc", "titlecasemapping", "tc", "uppercasemapping",
   "uc", "verticalorientation", "vo", "wordbreak", "wb"]

/-- The class of the value of a property. -/
def classOfValue (name value : String) : Except Cause CharClass := do
  if name == "gc" || name == "generalcategory" then
    match ← classOfCategory? value with
    | some k => return k
    | none => throw .unknownPropertyValue
  else if name == "sc" || name == "script" then
    match Script.named? value with
    | some s => return classOfScript s
    | none => throw .unknownPropertyValue
  else if name == "scx" || name == "scriptextensions" then
    match Script.named? value with
    | some s => return .wide s.ranges.size s.extensionContains
    | none => throw .unknownPropertyValue
  else if otherValued.contains name || (Property.named? name).isSome then throw .unknownPropertyValue
  else throw .unknownProperty

/-- **The class that a query is about.** -/
def PropertyQuery.charClass : PropertyQuery → Except Cause CharClass
  | named name => classOfName (looseName name)
  | valued name value => classOfValue (looseName name) (looseName value)

/-! ## Sets -/

/-- A meaning, or the fault at a span. -/
def faultAt {α : Type} (span : Span) : Except Cause α → Except Fault α
  | .ok a => .ok a
  | .error cause => .error ⟨span, cause⟩

/-- The other characters, if Unicode is in force and a set is negated. -/
def negateIf (flags : Flags) (span : Span) (negated : Bool) (k : CharClass) : Except Fault CharClass :=
  if !negated then .ok k else if flags.unicode then .ok k.complement else .error ⟨span, .invalidOctets⟩

/-- The character of a literal in a set. -/
def charInSet (flags : Flags) (content : Literal) : Except Fault Char :=
  if flags.unicode || content.char.toNat < 0x80 then .ok content.char
  else .error ⟨content.span, if content.isOctet then .invalidOctets else .unicodeNotAllowed⟩

mutual

/-- **The class of a set.** -/
def CharSet.charClass (flags : Flags) : CharSet → Except Fault CharClass
  | .literal content => do return .single (← charInSet flags content)
  | .range first last => do return .range (← charInSet flags first) (← charInSet flags last)
  | .posix span negated kind => negateIf flags span negated ((CharClass.narrow 4 kind.contains).fold flags)
  | .short span negated kind => do
    let k ← negateIf flags span negated (kind.charClass flags)
    return { k with weight := kind.weight flags.unicode negated }
  | .property span negated query => do
    if !flags.unicode then throw ⟨span, .unicodeNotAllowed⟩
    negateIf flags span negated ((← faultAt span query.charClass).fold flags)
  | .bracketed span negated content => do negateIf flags span negated ((← content.charClass flags).fold flags)
  | .union _ items => do return .union (← CharSet.charClasses flags items)
  | .combined _ operation left right => do
    return .combine operation ((← left.charClass flags).fold flags) ((← right.charClass flags).fold flags)

/-- The classes of several sets. -/
def CharSet.charClasses (flags : Flags) : List CharSet → Except Fault (List CharClass)
  | [] => .ok []
  | set :: rest => do return (← set.charClass flags) :: (← CharSet.charClasses flags rest)

end

end RootFold.Regex
