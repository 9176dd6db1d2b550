/-!
# `RootFold.Yaml.Tag` — the tags of nodes

A tag is a sequence of octets without zeros. Mostly they encode a text, but a tag that was spelled with escapes
may hold any octets that look like encodings. Tags that begin with an exclamation mark are the document's own; the
core schema has names for some of the others.

## Contents
- **Tags.** `Tag`, `Tag.ofOctets`, `Tag.ofText`, `Tag.append`.
- **The core schema.** `Tag.null`, `Tag.bool`, `Tag.int`, `Tag.float`.
- **The document's own.** `Tag.isLocal`, `Tag.localName?`.
-/

namespace RootFold.Yaml

/-- **A tag.** -/
structure Tag where
  octets : List UInt8
  deriving DecidableEq, Repr, Inhabited

namespace Tag

/-- The tag of some octets. A zero ends it. -/
def ofOctets (octets : List UInt8) : Tag := ⟨octets.takeWhile (· != 0)⟩

/-- The tag of a text. -/
def ofText (text : String) : Tag := ofOctets text.toUTF8.toList

/-- One tag after the other. -/
def append (s t : Tag) : Tag := ⟨s.octets ++ t.octets⟩

/-- Whether there is nothing in the tag. -/
def isEmpty (t : Tag) : Bool := t.octets.isEmpty

/-! ## The core schema -/

/-- What the tags of the core schema begin with. -/
def coreNames : Tag := ofText "tag:yaml.org,2002:"

def null : Tag := coreNames.append (ofText "null")
def bool : Tag := coreNames.append (ofText "bool")
def int : Tag := coreNames.append (ofText "int")
def float : Tag := coreNames.append (ofText "float")

/-! ## The document's own -/

/-- The octet of the exclamation mark. -/
def exclamation : UInt8 := 0x21

/-- The tag that is an exclamation mark alone. -/
def lone : Tag := ⟨[exclamation]⟩

/-- Whether a tag is the document's own. -/
def isLocal (t : Tag) : Bool := t.octets.head? == some exclamation

/-- **The name in a tag of the document's own,** if it encodes a text. An exclamation mark alone is its own name. -/
def localName? (t : Tag) : Option String :=
  match t.octets with
  | [] => none
  | first :: rest =>
    if first != exclamation then none
    else String.fromUTF8? ⟨(if rest.isEmpty then [first] else rest).toArray⟩

end Tag

end RootFold.Yaml
