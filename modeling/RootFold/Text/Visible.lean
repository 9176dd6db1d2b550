import RootFold.Unicode.Property

/-!
# `RootFold.Text.Visible` — the characters that show on their own

A character is hidden when it is a control or format character, for private use or unassigned, a separator other
than the space, when it extends the character before it, or when it shows nothing unless it is supported. All
others are visible.

## Contents
- **The test.** `hiddenCategories`, `isVisible`.
-/

namespace RootFold.Text

open Unicode

/-- The categories without characters that show, but for the space. -/
def hiddenCategories : List Category := Category.others ++ Category.separators

/-- **Whether a character shows on its own.** -/
def isVisible (c : Char) : Bool :=
  c == ' ' || !(isIn hiddenCategories c || extendsCluster c || isIgnorable c)

end RootFold.Text
