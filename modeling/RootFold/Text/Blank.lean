/-!
# `RootFold.Text.Blank` — the characters that count as blank

The blank characters are those with the Unicode property `White_Space`: the ASCII controls from tab to carriage
return, the space, the next-line control, and the spaces and separators beyond ASCII.
-/

namespace RootFold.Text

/-- The blank characters beyond ASCII. -/
def blankBeyondAscii : List Char :=
  ['\u0085', '\u00a0', '\u1680', '\u2000', '\u2001', '\u2002', '\u2003', '\u2004', '\u2005', '\u2006', '\u2007',
   '\u2008', '\u2009', '\u200a', '\u2028', '\u2029', '\u202f', '\u205f', '\u3000']

/-- **Whether a character is blank.** -/
def isBlank (c : Char) : Bool :=
  c == ' ' || ('\t' ≤ c && c ≤ '\r') || blankBeyondAscii.contains c

/-- A text without the blanks in front. -/
def skipBlanks (text : List Char) : List Char := text.dropWhile isBlank

theorem length_skipBlanks_le (text : List Char) : (skipBlanks text).length ≤ text.length :=
  (List.dropWhile_suffix _).length_le

end RootFold.Text
