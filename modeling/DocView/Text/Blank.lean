/-!
# Blanks

Which characters count as blank at the ends of a text and between its words: the white space of
Unicode together with the four information separators `U+001C` to `U+001F`. A zero-width space is
not blank.

Numerals are stricter. What may stand around them is white space only, so a numeral with an
information separator at its end is none, unless the text has been stripped before it is read.

## Main definitions

* `Text.isBlank`, `Text.isPadding`
* `Text.strip` - a text without the blanks at its ends
-/

namespace DocView.Text

/-- Whether a character is blank. -/
def isBlank (c : Char) : Bool :=
  let n := c.toNat
  (9 ≤ n && n ≤ 13) || (28 ≤ n && n ≤ 32)
    || n == 0x85 || n == 0xA0 || n == 0x1680 || (0x2000 ≤ n && n ≤ 0x200A)
    || n == 0x2028 || n == 0x2029 || n == 0x202F || n == 0x205F || n == 0x3000

/-- Whether a character may stand around a numeral. -/
def isPadding (c : Char) : Bool := isBlank c && !(28 ≤ c.toNat && c.toNat ≤ 31)

/-- A list of characters without those of a kind at its ends. -/
def stripBy (p : Char → Bool) (cs : List Char) : List Char :=
  ((cs.dropWhile p).reverse.dropWhile p).reverse

/-- A list of characters without the blanks at its ends. -/
def stripList (cs : List Char) : List Char := stripBy isBlank cs

/-- A text without the blanks at its ends. -/
def strip (s : String) : String := String.ofList (stripList s.toList)

end DocView.Text
