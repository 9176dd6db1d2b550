/-!
# `RootFold.Text.Occurrence` — one text inside another
-/

namespace RootFold.Text

/-- **Whether one text stands somewhere in another.** -/
def occursIn (part : List Char) : List Char → Bool
  | [] => part.isEmpty
  | c :: rest => part.isPrefixOf (c :: rest) || occursIn part rest

end RootFold.Text
