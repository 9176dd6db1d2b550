import RootFold.Yaml.Scalar
import RootFold.Yaml.Tag

/-!
# `RootFold.Yaml.Token` — the tokens of YAML texts, and those read on their own

Tokens are marks of structure, names, tags, directives and scalars. Collections without brackets have tokens for
their beginning and end, though no characters stand for them.

## Contents
- **Tokens.** `Token`.
- **Names.** `readName?` for anchors and aliases.
- **Tags.** `readTag?`, a handle and a suffix.
- **Directives.** `readDirective?`.
-/

namespace RootFold.Yaml

/-- **What a text is made of.** -/
inductive Token where
  | streamStart
  | streamEnd
  | versionDirective (major minor : Nat)
  /-- A handle and what it stands for. -/
  | tagDirective (handle : String) (meaning : Tag)
  | documentStart
  | documentEnd
  | blockSequenceStart
  | blockMappingStart
  | blockEnd
  | flowSequenceStart
  | flowSequenceEnd
  | flowMappingStart
  | flowMappingEnd
  | blockEntry
  | flowEntry
  | key
  | value
  | alias (name : String)
  | anchor (name : String)
  | tag (handle : String) (suffix : Tag)
  | scalar (text : String) (style : ScalarStyle)
  deriving DecidableEq, Repr, Inhabited

/-! ## Names -/

/-- Whether a name may end in front of a text. -/
def endsName (text : List Char) : Bool :=
  startsWithSpace text || text.head?.any fun c => ['?', ':', ',', ']', '\x7d', '%', '@', '\x60'].contains c

/-- **A name** after its sign, and the place after it. -/
def readName? (c : Cursor) : Option (String × Cursor) :=
  let (name, after) := c.advance.span isWord
  if name.isEmpty || !endsName after.rest then none else some (String.ofList name, after)

/-! ## Tags -/

/-- Whether a character may stand in a tag; some may only between angle brackets. -/
def isTagChar (verbatim : Bool) (c : Char) : Bool :=
  isWord c || [';', '/', '?', ':', '@', '&', '=', '+', '$', '.', '%', '!', '~', '*', '\x27', '(', ')'].contains c ||
    (verbatim && [',', '[', ']'].contains c)

/-- The number of octets that follow a first octet in the encoding of a character. -/
def laterOctets? (first : UInt8) : Option Nat :=
  if first < 0x80 then some 0
  else if 0xC0 ≤ first && first < 0xE0 then some 1
  else if 0xE0 ≤ first && first < 0xF0 then some 2
  else if 0xF0 ≤ first && first < 0xF8 then some 3
  else none

/-- **The octets that the characters of a tag stand for.** Octets beyond ASCII are given by percent signs in whole
    encodings; `owed` of them are still to come. -/
def tagOctets? (owed : Nat) : List Char → Option (List UInt8)
  | [] => if owed = 0 then some [] else none
  | '%' :: a :: b :: rest => do
    let octet := (← Text.hexNumber? [a, b]).toUInt8
    let owed ← match owed with
      | 0 => laterOctets? octet
      | n + 1 => if 0x80 ≤ octet && octet < 0xC0 then some n else none
    return octet :: (← tagOctets? owed rest)
  | c :: rest => if owed = 0 && c != '%' then do return c.toNat.toUInt8 :: (← tagOctets? 0 rest) else none

/-- The characters of a tag in front, after `head` that was read before, and the place after them. There must be
    some. -/
def readTagText? (verbatim : Bool) (head : List Char) (c : Cursor) : Option (Tag × Cursor) := do
  let (chars, after) := c.span (isTagChar verbatim)
  if head.isEmpty && chars.isEmpty then none
  let octets ← tagOctets? 0 chars
  return (Tag.ofOctets ((head.drop 1).map (·.toNat.toUInt8) ++ octets), after)

/-- A tag handle: an exclamation mark, perhaps a word and another. `isClosed` says that the second is there. -/
structure TagHandle where
  text : List Char
  isClosed : Bool

/-- A tag handle in front, and the place after it. -/
def readTagHandle? (c : Cursor) : Option (TagHandle × Cursor) :=
  match c.rest with
  | '!' :: _ =>
    let (word, after) := c.advance.span isWord
    match after.rest with
    | '!' :: _ => some (⟨'!' :: word ++ ['!'], true⟩, after.advance)
    | _ => some (⟨'!' :: word, false⟩, after)
  | _ => none

/-- The handle and the suffix of a tag. A lone exclamation mark is a suffix without a handle. -/
def readTagParts? (c : Cursor) : Option (String × Tag × Cursor) := do
  match c.rest with
  | '!' :: '<' :: _ =>
    let (suffix, after) ← readTagText? true [] (c.skip 2)
    if after.rest.head? == some '>' then return ("", suffix, after.advance) else none
  | _ =>
    let (handle, after) ← readTagHandle? c
    if handle.isClosed then
      let (suffix, after) ← readTagText? false [] after
      return (String.ofList handle.text, suffix, after)
    else
      let (suffix, after) ← readTagText? false handle.text after
      if suffix.isEmpty then return ("", .lone, after) else return ("!", suffix, after)

/-- **A tag** and the place after it. A blank must follow, or inside brackets a comma. -/
def readTag? (inFlow : Bool) (c : Cursor) : Option (Token × Cursor) := do
  let (handle, suffix, after) ← readTagParts? c
  if startsWithSpace after.rest || (inFlow && after.rest.head? == some ',') then
    return (.tag handle suffix, after)
  else none

/-! ## Directives -/

/-- A version number of at most nine digits. -/
def readVersionNumber? (c : Cursor) : Option (Nat × Cursor) :=
  let (digits, after) := c.span Char.isDigit
  if digits.isEmpty || 9 < digits.length then none
  else some (digits.foldl (fun n d => n * 10 + (d.toNat - '0'.toNat)) 0, after)

/-- The directive that gives the version. -/
def readVersion? (c : Cursor) : Option (Token × Cursor) := do
  let (major, after) ← readVersionNumber? (c.skipWhile isBlank)
  if after.rest.head? == some '.' then
    let (minor, after) ← readVersionNumber? after.advance
    return (.versionDirective major minor, after)
  else none

/-- The directive that gives a meaning to a tag handle. -/
def readTagMeaning? (c : Cursor) : Option (Token × Cursor) := do
  let (handle, after) ← readTagHandle? (c.skipWhile isBlank)
  if !handle.isClosed && handle.text.length != 1 then none
  if !after.rest.head?.any isBlank then none
  let (meaning, after) ← readTagText? true [] (after.skipWhile isBlank)
  if startsWithSpace after.rest then return (.tagDirective (String.ofList handle.text) meaning, after) else none

/-- **A directive,** from its percent sign to the end of its line. -/
def readDirective? (c : Cursor) : Option (Token × Cursor) := do
  let (name, after) := c.advance.span isWord
  if !startsWithSpace after.rest then none
  let (token, after) ←
    if name == "YAML".toList then readVersion? after
    else if name == "TAG".toList then readTagMeaning? after
    else none
  let after ← skipLineEnd? after
  return (token, after.advance)

end RootFold.Yaml
