import DocView.Text.Blank

/-!
# Splitting

A text cut at every occurrence of one character. There is always one part more than there are
separators, so the empty text has one part, which is empty.

## Main definitions

* `Text.splitAt`, `Text.parts`, `Text.commaItems`
-/

namespace DocView.Text

/-- Characters cut at every separator. -/
def splitAt (separator : Char) : List Char → List (List Char)
  | [] => [[]]
  | c :: rest =>
    if c = separator then [] :: splitAt separator rest
    else match splitAt separator rest with
      | [] => [[c]]
      | part :: parts => (c :: part) :: parts

/-- A text cut at every separator. -/
def parts (separator : Char) (s : String) : List String :=
  (splitAt separator s.toList).map String.ofList

/-- The items of a text that lists them with commas, without the blanks around them. -/
def commaItems (s : String) : List String :=
  (splitAt ',' s.toList).map fun part => String.ofList (stripList part)

end DocView.Text
