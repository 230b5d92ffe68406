/-!
# Texts inside texts

Whether a text occurs in another one, at its start, at its end or anywhere. The empty text occurs
everywhere.

## Main definitions

* `Text.startsWith`, `Text.endsWith`, `Text.occursIn`
-/

namespace DocView.Text

/-- Whether a text starts with another. -/
def startsWith (s start : String) : Bool := start.toList.isPrefixOf s.toList

/-- Whether a text ends with another. -/
def endsWith (s ending : String) : Bool := ending.toList.isSuffixOf s.toList

/-- Whether characters occur somewhere in a row. -/
def isInside (part : List Char) : List Char → Bool
  | [] => part.isEmpty
  | c :: rest => part.isPrefixOf (c :: rest) || isInside part rest

/-- Whether a text occurs in another. -/
def occursIn (part s : String) : Bool := isInside part.toList s.toList

end DocView.Text
