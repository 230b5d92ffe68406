/-!
# Names of characters

In a pattern a character may be given by its name. A table of names is a parameter of whatever reads
patterns. The table of Unicode has a name for nearly every character; the one that stands in where
none is given has those of the printable characters of ASCII. Names count in any case.

## Main definitions

* `Text.CharacterNames`, `Text.CharacterNames.ascii`
-/

namespace DocView.Text

/-- The characters that names stand for. -/
abbrev CharacterNames := String → Option Char

namespace CharacterNames

/-- The digits and signs of ASCII by their names. -/
def signs : List (String × Char) :=
  [("SPACE", ' '), ("EXCLAMATION MARK", '!'), ("QUOTATION MARK", '"'), ("NUMBER SIGN", '#'),
   ("DOLLAR SIGN", '$'), ("PERCENT SIGN", '%'), ("AMPERSAND", '&'), ("APOSTROPHE", '\''),
   ("LEFT PARENTHESIS", '('), ("RIGHT PARENTHESIS", ')'), ("ASTERISK", '*'), ("PLUS SIGN", '+'),
   ("COMMA", ','), ("HYPHEN-MINUS", '-'), ("FULL STOP", '.'), ("SOLIDUS", '/'),
   ("DIGIT ZERO", '0'), ("DIGIT ONE", '1'), ("DIGIT TWO", '2'), ("DIGIT THREE", '3'),
   ("DIGIT FOUR", '4'), ("DIGIT FIVE", '5'), ("DIGIT SIX", '6'), ("DIGIT SEVEN", '7'),
   ("DIGIT EIGHT", '8'), ("DIGIT NINE", '9'), ("COLON", ':'), ("SEMICOLON", ';'),
   ("LESS-THAN SIGN", '<'), ("EQUALS SIGN", '='), ("GREATER-THAN SIGN", '>'),
   ("QUESTION MARK", '?'), ("COMMERCIAL AT", '@'), ("LEFT SQUARE BRACKET", '['),
   ("REVERSE SOLIDUS", '\\'), ("RIGHT SQUARE BRACKET", ']'), ("CIRCUMFLEX ACCENT", '^'),
   ("LOW LINE", '_'), ("GRAVE ACCENT", '\x60'), ("LEFT CURLY BRACKET", '\x7b'),
   ("VERTICAL LINE", '|'), ("RIGHT CURLY BRACKET", '\x7d'), ("TILDE", '~')]

/-- The letters of ASCII by their names. -/
def letters : List (String × Char) := (List.range 26).flatMap fun i =>
  let capital := Char.ofNat (0x41 + i)
  [("LATIN CAPITAL LETTER " ++ toString capital, capital),
   ("LATIN SMALL LETTER " ++ toString capital, Char.ofNat (0x61 + i))]

/-- The printable characters of ASCII by their names. -/
def ascii : CharacterNames := fun name =>
  List.lookup (name.map Char.toUpper) (signs ++ letters)

end CharacterNames

end DocView.Text
