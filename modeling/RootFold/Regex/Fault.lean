/-!
# `RootFold.Regex.Fault` — what is wrong with a regular expression, and where

A fault has a cause and the span of text that it concerns. A report shows the expression with carets under the
span, and under an earlier one that it clashes with; an expression of several lines stands between two rules, with
numbered lines.

## Contents
- **Places.** `Place`, `Span`.
- **Causes.** `Cause`, `Cause.message`, `Cause.earlier?`.
- **Reports.** `Fault`, `Fault.report`.
-/

namespace RootFold.Regex

/-! ## Places -/

/-- **A place in an expression.** Lines and columns are counted from one, columns in characters. -/
structure Place where
  line : Nat := 1
  column : Nat := 1
  deriving DecidableEq, Repr, Inhabited

/-- The place after a character. -/
def Place.after (p : Place) (c : Char) : Place := if c == '\n' then ⟨p.line + 1, 1⟩ else ⟨p.line, p.column + 1⟩

/-- **The text from one place up to another.** -/
structure Span where
  first : Place
  last : Place
  deriving DecidableEq, Repr, Inhabited

/-- The span of no text at a place. -/
def Span.at (p : Place) : Span := ⟨p, p⟩

/-- Whether a span is on one line. -/
def Span.isOnOneLine (s : Span) : Bool := s.first.line == s.last.line

/-! ## Causes -/

/-- How deep an expression may be nested. -/
def nestingLimit : Nat := 250

/-- **Why an expression cannot be read or has no meaning.** -/
inductive Cause where
  | escapeInSet
  | unorderedRange
  | rangeBound
  | unclosedSet
  | emptyNumber
  | numberTooLarge
  | emptyHex
  | noCharacter
  | hexDigit
  | endOfEscape
  | unknownEscape
  | nothingNegated
  | repeatedFlag (earlier : Span)
  | repeatedNegation (earlier : Span)
  | endOfFlags
  | unknownFlag
  | repeatedName (earlier : Span)
  | emptyName
  | badName
  | unclosedName
  | unclosedGroup
  | unopenedGroup
  | tooDeep
  | unorderedCount
  | emptyCount
  | unclosedCount
  | nothingRepeated
  | unclosedBoundary
  | unknownBoundary
  | endOfBoundary
  | propertyLetter
  | backreference
  | lookAround
  | unicodeNotAllowed
  | invalidOctets
  | unknownProperty
  | unknownPropertyValue
  deriving DecidableEq, Repr

namespace Cause

/-- **How a cause is told.** -/
def message : Cause → String
  | escapeInSet => "invalid escape sequence found in character class"
  | unorderedRange => "invalid character class range, the start must be <= the end"
  | rangeBound => "invalid range boundary, must be a literal"
  | unclosedSet => "unclosed character class"
  | emptyNumber => "decimal literal empty"
  | numberTooLarge => "decimal literal invalid"
  | emptyHex => "hexadecimal literal empty"
  | noCharacter => "hexadecimal literal is not a Unicode scalar value"
  | hexDigit => "invalid hexadecimal digit"
  | endOfEscape => "incomplete escape sequence, reached end of pattern prematurely"
  | unknownEscape => "unrecognized escape sequence"
  | nothingNegated => "dangling flag negation operator"
  | repeatedFlag _ => "duplicate flag"
  | repeatedNegation _ => "flag negation operator repeated"
  | endOfFlags => "expected flag but got end of regex"
  | unknownFlag => "unrecognized flag"
  | repeatedName _ => "duplicate capture group name"
  | emptyName => "empty capture group name"
  | badName => "invalid capture group character"
  | unclosedName => "unclosed capture group name"
  | unclosedGroup => "unclosed group"
  | unopenedGroup => "unopened group"
  | tooDeep => s!"exceed the maximum number of nested parentheses/brackets ({nestingLimit})"
  | unorderedCount => "invalid repetition count range, the start must be <= the end"
  | emptyCount => "repetition quantifier expects a valid decimal"
  | unclosedCount => "unclosed counted repetition"
  | nothingRepeated => "repetition operator missing expression"
  | unclosedBoundary =>
    "special word boundary assertion is either unclosed or contains an invalid character"
  | unknownBoundary =>
    "unrecognized special word boundary assertion, valid choices are: start, end, start-half or end-half"
  | endOfBoundary =>
    "found either the beginning of a special word boundary or a bounded repetition on a \\b with an opening " ++
      "brace, but no closing brace"
  | propertyLetter => "invalid Unicode character class"
  | backreference => "backreferences are not supported"
  | lookAround => "look-around, including look-ahead and look-behind, is not supported"
  | unicodeNotAllowed => "Unicode not allowed here"
  | invalidOctets => "pattern can match invalid UTF-8"
  | unknownProperty => "Unicode property not found"
  | unknownPropertyValue => "Unicode property value not found"

/-- The earlier span that a cause clashes with. -/
def earlier? : Cause → Option Span
  | repeatedFlag earlier => some earlier
  | repeatedNegation earlier => some earlier
  | repeatedName earlier => some earlier
  | _ => none

end Cause

/-! ## Reports -/

/-- **A cause and the span it concerns.** -/
structure Fault where
  span : Span
  cause : Cause
  deriving DecidableEq, Repr

namespace Fault

/-- A line without the carriage return before its end. -/
def withoutReturn (line : List Char) : List Char := if line.getLast? == some '\r' then line.dropLast else line

/-- The lines of a text, without their ends. The end of the last one may be missing. -/
def linesOf (text : List Char) : List (List Char) :=
  let lines := text.splitOn '\n'
  lines.dropLast.map withoutReturn ++ (lines.getLast?.filter (!·.isEmpty)).toList

/-- As many of a character. -/
def repeated (n : Nat) (c : Char) : List Char := List.replicate n c

/-- Carets under spans of one line, from a column on. -/
def carets (column : Nat) : List Span → List Char
  | [] => []
  | s :: rest =>
    let width := max 1 (s.last.column - s.first.column)
    let start := max column s.first.column
    repeated (start - column) ' ' ++ repeated width '^' ++ carets (start + width) rest

/-- The spans of a fault, in order. -/
def spans (fault : Fault) : List Span :=
  match fault.cause.earlier? with
  | none => [fault.span]
  | some earlier => [earlier, fault.span]

/-- A line with what stands in front of it, and the carets below it. -/
def markedLine (margin : List Char) (marks : List Span) (line : List Char) : List Char :=
  margin ++ line ++ ['\n'] ++
    (if marks.isEmpty then [] else repeated margin.length ' ' ++ carets 1 marks ++ ['\n'])

/-- A line number before a colon, filled up to a width. -/
def numberMargin (width number : Nat) : List Char :=
  let digits := (toString number).toList
  repeated (width - digits.length) ' ' ++ digits ++ [':', ' ']

/-- The lines with carets. Lines are numbered if the width of their numbers is given. -/
def markedLines (width : Nat) (marks : List Span) (number : Nat) : List (List Char) → List Char
  | [] => []
  | line :: rest =>
    let margin := if width = 0 then repeated 4 ' ' else numberMargin width number
    markedLine margin (marks.filter (·.first.line == number)) line ++ markedLines width marks (number + 1) rest

/-- A span over several lines, in words. -/
def spanInWords (s : Span) : List Char :=
  s!"on line {s.first.line} (column {s.first.column}) through line {s.last.line} (column {s.last.column - 1})".toList

/-- **The report on a fault of an expression.** -/
def report (pattern : String) (fault : Fault) : String :=
  let text := pattern.toList
  let lines := linesOf text
  let count := lines.length + (if text.getLast? == some '\n' then 1 else 0)
  let width := if count ≤ 1 then 0 else (toString count).length
  let (short, long) := fault.spans.partition Span.isOnOneLine
  let marked := markedLines width short 1 lines
  let body :=
    if text.contains '\n' then
      let rule := repeated 79 '~' ++ ['\n']
      rule ++ marked ++ rule ++ long.flatMap fun s => spanInWords s ++ ['\n']
    else marked
  "regex parse error:\n" ++ String.ofList body ++ s!"error: {fault.cause.message}"

example : report "a(b" ⟨⟨⟨1, 2⟩, ⟨1, 3⟩⟩, .unclosedGroup⟩ =
    "regex parse error:\n    a(b\n     ^\nerror: unclosed group" := by decide +kernel

end Fault

end RootFold.Regex
