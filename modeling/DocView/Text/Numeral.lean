import DocView.Binary64.Basic
import DocView.Text.Blank
import DocView.Text.Digit

/-!
# Numbers as text

Integers and decimals written by people: white space at the ends is ignored, a sign may come first,
and the digits of any script count. An integer may have single underscores between its digits.

An integer text of more than 4300 digits is refused, whatever its value.

## Main definitions

* `Text.integer?` - a whole text as an integer
* `Text.leadingInteger?` - the integer that a text starts with
* `Text.decimal?` - a whole text as a double
-/

namespace DocView.Text

/-- The most digits that an integer text may have. -/
def maxDigits : Nat := 4300

/-- Why a text is no integer. -/
inductive IntegerFault where
  | malformed
  | tooManyDigits (count : Nat)
deriving DecidableEq, Repr

/-- The explanation given for an integer text that is too long. -/
def tooManyDigitsMessage (count : Nat) : String :=
  "Exceeds the limit (4300 digits) for integer string conversion: value has " ++ toString count
    ++ " digits; use sys.set_int_max_str_digits() to increase the limit"

/-- The explanation given for an integer that is too long to be written. -/
def integerTooLongMessage : String :=
  "Exceeds the limit (4300 digits) for integer string conversion; "
    ++ "use sys.set_int_max_str_digits() to increase the limit"

/-- Takes a sign off a text; the flag says whether it was a minus. -/
def takeSign : List Char → Bool × List Char
  | '-' :: rest => (true, rest)
  | '+' :: rest => (false, rest)
  | cs => (false, cs)

/-- An integer with the given sign. -/
def signed (negative : Bool) (n : Nat) : Int := if negative then -(n : Int) else n

/-- The digits of a number with single underscores between them. The flag says whether the
character before was a digit. -/
def groupedDigits? : Bool → List Char → Option (List Char)
  | afterDigit, [] => if afterDigit then some [] else none
  | afterDigit, c :: rest =>
    if c = '_' then (if afterDigit then groupedDigits? false rest else none)
    else if isDigit c then (groupedDigits? true rest).map (c :: ·)
    else none

/-- An integer given by its sign and digits. -/
def integerOfDigits (negative : Bool) (digits : List Char) : Except IntegerFault Int :=
  if maxDigits < digits.length then .error (.tooManyDigits digits.length)
  else .ok (signed negative (digitsValue digits))

/-- Reads a whole text as an integer. -/
def integer? (s : String) : Except IntegerFault Int :=
  let (negative, body) := takeSign (stripBy isPadding s.toList)
  match groupedDigits? false body with
  | none => .error .malformed
  | some digits => integerOfDigits negative digits

/-- The integer that a text starts with, after any blanks; `none` if it starts with none. -/
def leadingInteger? (s : String) : Option (Except IntegerFault Int) :=
  let (negative, body) := takeSign (s.toList.dropWhile isBlank)
  let digits := body.takeWhile isDigit
  if digits.isEmpty then none else some (integerOfDigits negative digits)

/-- The exponent part of a decimal: nothing, or `e`, a sign and digits. -/
def exponent? : List Char → Option Int
  | [] => some 0
  | c :: rest =>
    if c = 'e' ∨ c = 'E' then
      let (negative, digits) := takeSign rest
      if !digits.isEmpty && digits.all isDigit then some (signed negative (digitsValue digits))
      else none
    else none

/-- Reads a whole text as a decimal: digits with at most one point among or around them, and an
exponent. -/
def decimal? (s : String) : Option Binary64 := do
  let (negative, body) := takeSign (stripBy isPadding s.toList)
  let whole := body.takeWhile isDigit
  let rest := body.dropWhile isDigit
  let (fraction, rest) := match rest with
    | '.' :: more => (more.takeWhile isDigit, more.dropWhile isDigit)
    | _ => ([], rest)
  if whole.isEmpty && fraction.isEmpty then none
  else
    let exponent ← exponent? rest
    some (Binary64.ofDecimal negative (digitsValue (whole ++ fraction))
      (exponent - fraction.length))

end DocView.Text
