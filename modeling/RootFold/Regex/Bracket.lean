import RootFold.Regex.Escape

/-!
# `RootFold.Regex.Bracket` — sets of characters between brackets

A set lists characters, ranges, classes and further sets in brackets; two sets side by side with a doubled sign
between them are combined, from left to right. A closing bracket that comes first, and hyphens that come first,
stand for themselves.

## Contents
- **Members.** `memberOf`, `boundOf`, `readRange`.
- **Classes by name.** `posixAhead?`.
- **Brackets.** `Union`, `openBracket`, `readMembers`, `readBracket`.
-/

namespace RootFold.Regex

namespace ReadM

/-! ## Members -/

/-- A sign as a member of a set. Assertions are none. -/
def memberOf (sign : Sign) : ReadM CharSet :=
  match sign with
  | .literal content => return .literal content
  | .short span negated kind => return .short span negated kind
  | .property span negated query => return .property span negated query
  | sign => fail sign.span .escapeInSet

/-- A sign as the end of a range. Only a character can be one. -/
def boundOf (sign : Sign) : ReadM Literal :=
  match sign with
  | .literal content => return content
  | sign => fail sign.span .rangeBound

/-- A character that stands for itself. -/
def readVerbatim : ReadM Sign := do
  let span ← spanHere
  match ← peek with
  | none => fail span .unclosedSet
  | some c =>
    let _ ← advance
    return .literal ⟨span, c, false⟩

/-- A single sign of a set. -/
def readMemberSign : ReadM Sign := do
  if ← at? '\\' then readEscape else readVerbatim

/-- **A member of a set,** or a range from it to another. `opening` is the bracket that would stay open. -/
def readRange (opening : Span) : ReadM CharSet := do
  let first ← readMemberSign
  skipSpace
  if ← atEnd then fail opening .unclosedSet
  let next ← peekNext
  if !(← at? '-') || next == some ']' || next == some '-' then memberOf first
  else
    if !(← advanceSpaced) then fail opening .unclosedSet
    let last ← readMemberSign
    let span : Span := ⟨first.span.first, last.span.last⟩
    let first ← boundOf first
    let last ← boundOf last
    if last.char < first.char then fail span .unorderedRange
    return .range first last

/-! ## Classes by name -/

/-- A class of ASCII by its name, between brackets and colons, perhaps negated; and its length. -/
def posixAhead? (text : List Char) : Option (Bool × PosixClass × Nat) :=
  match text with
  | '[' :: ':' :: rest =>
    let negated := rest.head? == some '^'
    let rest := if negated then rest.tail else rest
    let name := rest.takeWhile (· != ':')
    if rest.drop name.length |>.take 2 |> (· == [':', ']']) then
      (PosixClass.names.find? (·.1 == String.ofList name)).map fun (_, kind) =>
        (negated, kind, name.length + (if negated then 5 else 4))
    else none
  | _ => none

/-! ## Brackets -/

/-- **Members of a set while they are read,** the last first, and their span. -/
structure Union where
  span : Span
  items : List CharSet := []

namespace Union

/-- One more member. -/
def push (u : Union) (item : CharSet) : Union :=
  ⟨⟨if u.items.isEmpty then item.span.first else u.span.first, item.span.last⟩, item :: u.items⟩

/-- The members as one set. -/
def toSet (u : Union) : CharSet :=
  match u.items with
  | [item] => item
  | items => .union u.span items.reverse

end Union

/-- **A set while it is read:** what stands in front of the last sign that combines, that sign, and the members
    since. -/
structure SetDraft where
  left : Option (SetOperation × CharSet) := none
  members : Union

/-- The draft as one set. -/
def SetDraft.toSet (d : SetDraft) : CharSet :=
  let right := d.members.toSet
  match d.left with
  | none => right
  | some (operation, left) => .combined ⟨left.span.first, right.span.last⟩ operation left right

/-- The signs that combine what stands on both sides. -/
def operations : List (String × SetOperation) :=
  [("&&", .intersection), ("--", .difference), ("~~", .symmetricDifference)]

/-- The sign that comes next and combines, if one does. -/
def operationHere? : ReadM (Option SetOperation) := do
  let rest := (← get).rest
  return (operations.find? fun (sign, _) => sign.toList.isPrefixOf rest).map (·.2)

/-- Hyphens that stand for themselves. -/
def readHyphens (start : Place) : (fuel : Nat) → Union → ReadM Union
  | 0, u => return u
  | fuel + 1, u => do
    if ← at? '-' then
      let u := u.push (.literal ⟨← spanHere, '-', false⟩)
      if !(← advanceSpaced) then fail (.at start) .unclosedSet
      readHyphens start fuel u
    else return u

/-- **The beginning of a set:** its text so far, whether it is negated, and the members that come first. -/
def openBracket : ReadM (Span × Bool × Union) := do
  let start ← here
  if !(← advanceSpaced) then fail (← spanFrom start) .unclosedSet
  let negated ← at? '^'
  if negated then
    if !(← advanceSpaced) then fail (← spanFrom start) .unclosedSet
  let members ← readHyphens start (← bound) ⟨.at (← here), []⟩
  if members.items.isEmpty && (← at? ']') then
    let members := members.push (.literal ⟨← spanHere, ']', false⟩)
    if !(← advanceSpaced) then fail (← spanFrom start) .unclosedSet
    return (← spanFrom start, negated, members)
  else return (← spanFrom start, negated, members)

/-- Members up to the closing bracket, which is passed over. -/
def readMembers (opening : Span) : (fuel : Nat) → SetDraft → ReadM CharSet
  | 0, d => return d.toSet
  | fuel + 1, d => do
    skipSpace
    match ← peek with
    | none => fail opening .unclosedSet
    | some ']' =>
      let _ ← advance
      return d.toSet
    | some '[' =>
      match posixAhead? (← get).rest with
      | some (negated, kind, width) =>
        let start ← here
        skip width
        readMembers opening fuel { d with members := d.members.push (.posix (← spanFrom start) negated kind) }
      | none =>
        let start ← here
        let (inner, negated, members) ← openBracket
        let content ← readMembers inner fuel { members }
        let item := CharSet.bracketed (← spanFrom start) negated content
        readMembers opening fuel { d with members := d.members.push item }
    | some _ =>
      match ← operationHere? with
      | some operation =>
        skip 2
        readMembers opening fuel { left := some (operation, d.toSet), members := ⟨.at (← here), []⟩ }
      | none => readMembers opening fuel { d with members := d.members.push (← readRange opening) }

/-- **A set between brackets.** -/
def readBracket : ReadM CharSet := do
  let start ← here
  let (opening, negated, members) ← openBracket
  let content ← readMembers opening (← bound) { members }
  return .bracketed (← spanFrom start) negated content

end ReadM

end RootFold.Regex
