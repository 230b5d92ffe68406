import DocView.Text.Numeral
import DocView.Value.Basic

/-!
# Reading JSON

A reader for JSON texts that also knows the names `NaN`, `Infinity` and `-Infinity`. A numeral
with a fraction or an exponent is a double, any other numeral is an integer of any size up to
4300 digits. A name that comes twice in an object keeps its first place and its last value.

Texts are texts of Unicode here, so there is no character for half of a surrogate pair. An escape
that stands for such a half on its own, as in `"\ud800"`, is read as the replacement character
U+FFFD. Nor is there a limit to how deep arrays and objects are nested.

## Positions

The parts of the reader answer with the text that is left, and a fault notes how much was left
when it was found. Only `read` knows the whole text, and turns that into a line, a column and an
offset.

## Fuel

`value?`, `items?` and `members?` take fuel. Each of them uses up a character before it calls
another, so twice the length of the text is always enough; `read` supplies it.

## Main definitions

* `Json.Fault`, `Json.ReadError` - what can be wrong with a text, with its message
* `Json.read` - the reader
-/

namespace DocView.Json

/-! ### Faults -/

/-- What a text lacks or has too much of. -/
inductive FaultKind where
  | byteOrderMark
  | expectingValue
  | expectingName
  | expectingColon
  | expectingComma
  | unterminated
  | controlCharacter
  | badEscape
  | badUnicodeEscape
  | extraData
deriving DecidableEq, Repr

/-- The wording of a fault. -/
def FaultKind.message : FaultKind → String
  | .byteOrderMark => "Unexpected UTF-8 BOM (decode using utf-8-sig)"
  | .expectingValue => "Expecting value"
  | .expectingName => "Expecting property name enclosed in double quotes"
  | .expectingColon => "Expecting ':' delimiter"
  | .expectingComma => "Expecting ',' delimiter"
  | .unterminated => "Unterminated string starting at"
  | .controlCharacter => "Invalid control character at"
  | .badEscape => "Invalid \\escape"
  | .badUnicodeEscape => "Invalid \\uXXXX escape"
  | .extraData => "Extra data"

/-- A fault and its place; lines and columns count from one, the offset from zero. -/
structure Fault where
  kind : FaultKind
  line : Nat
  column : Nat
  offset : Nat
deriving DecidableEq, Repr

/-- The wording of a fault with its place. -/
def Fault.message (f : Fault) : String :=
  f.kind.message ++ ": line " ++ toString f.line ++ " column " ++ toString f.column ++ " (char "
    ++ toString f.offset ++ ")"

/-- Why a text cannot be read. -/
inductive ReadError where
  | syntaxFault (fault : Fault)
  | tooManyDigits (count : Nat)
deriving DecidableEq, Repr

/-- The wording of a read error. -/
def ReadError.message : ReadError → String
  | .syntaxFault fault => fault.message
  | .tooManyDigits count => Text.tooManyDigitsMessage count

/-- A fault found while a number of characters were left. -/
inductive Trouble where
  | fault (kind : FaultKind) (left : Nat)
  | tooManyDigits (count : Nat)

/-- The outcome of reading a part. -/
abbrev Read := Except Trouble

/-- A fault at the start of the text that is left. -/
def failAt {α : Type} (kind : FaultKind) (rest : List Char) : Read α :=
  .error (.fault kind rest.length)

/-! ### Texts in quotes -/

/-- The value of a hexadecimal digit of either case. -/
def hexDigit? (c : Char) : Option Nat :=
  if c.isDigit then some (c.toNat - 48)
  else if 'a' ≤ c ∧ c ≤ 'f' then some (c.toNat - 87)
  else if 'A' ≤ c ∧ c ≤ 'F' then some (c.toNat - 55)
  else none

/-- The value of four hexadecimal digits. -/
def hexUnit? (a b c d : Char) : Option Nat := do
  let a ← hexDigit? a
  let b ← hexDigit? b
  let c ← hexDigit? c
  let d ← hexDigit? d
  some (((a * 16 + b) * 16 + c) * 16 + d)

/-- Whether a code unit is the first of a surrogate pair. -/
def isHighSurrogate (n : Nat) : Bool := 0xD800 ≤ n && n < 0xDC00

/-- Whether a code unit is the second of a surrogate pair. -/
def isLowSurrogate (n : Nat) : Bool := 0xDC00 ≤ n && n < 0xE000

/-- The character of a surrogate pair. -/
def joinSurrogates (high low : Nat) : Char :=
  Char.ofNat (0x10000 + (high - 0xD800) * 0x400 + (low - 0xDC00))

/-- The character of a single code unit; half of a pair on its own has none and is replaced by
U+FFFD. -/
def unitChar (n : Nat) : Char :=
  if isHighSurrogate n || isLowSurrogate n then Char.ofNat 0xFFFD else Char.ofNat n

/-- The character that an escape with one letter stands for. -/
def escaped? (c : Char) : Option Char :=
  if c = '"' ∨ c = '\\' ∨ c = '/' then some c
  else if c = 'n' then some '\n'
  else if c = 't' then some '\t'
  else if c = 'r' then some '\r'
  else if c = 'b' then some (Char.ofNat 8)
  else if c = 'f' then some (Char.ofNat 12)
  else none

/-- The characters of a run of code units, the halves of a pair joined. -/
def joinUnits : List Nat → List Char
  | [] => []
  | [n] => [unitChar n]
  | high :: low :: rest =>
    if isHighSurrogate high && isLowSurrogate low then joinSurrogates high low :: joinUnits rest
    else unitChar high :: joinUnits (low :: rest)

/-- Reads the inside of a text up to its closing quote, as code units: a character stands for
itself, and an escape by number may be half of a pair. `opening` is how much was left at the
opening quote, and `acc` holds the units so far, reversed. An escape by number needs a character
after its four digits. -/
def textUnits (opening : Nat) : List Nat → List Char → Read (List Nat × List Char)
  | _, [] => .error (.fault .unterminated opening)
  | acc, '"' :: rest => .ok (acc.reverse, rest)
  | _, ['\\'] => .error (.fault .unterminated opening)
  | acc, '\\' :: 'u' :: a :: b :: c :: d :: next :: rest =>
    match hexUnit? a b c d with
    | none => .error (.fault .badUnicodeEscape (rest.length + 6))
    | some n => textUnits opening (n :: acc) (next :: rest)
  | acc, '\\' :: c :: rest =>
    if c = 'u' then .error (.fault .badUnicodeEscape (rest.length + 1))
    else match escaped? c with
      | none => .error (.fault .badEscape (rest.length + 2))
      | some plain => textUnits opening (plain.toNat :: acc) rest
  | acc, c :: rest =>
    if c.toNat < 32 then .error (.fault .controlCharacter (rest.length + 1))
    else textUnits opening (c.toNat :: acc) rest

/-- Reads the rest of a text whose opening quote has been taken. -/
def text? (rest : List Char) : Read (String × List Char) := do
  let (units, rest) ← textUnits (rest.length + 1) [] rest
  .ok (String.ofList (joinUnits units), rest)

/-! ### Numerals -/

/-- The digits of ASCII that a text starts with, and what follows them. -/
def spanDigits (cs : List Char) : List Char × List Char :=
  (cs.takeWhile Char.isDigit, cs.dropWhile Char.isDigit)

/-- A fraction part, if the text starts with a point and a digit. -/
def fractionPart? : List Char → Option (List Char × List Char)
  | '.' :: d :: rest => if d.isDigit then some (spanDigits (d :: rest)) else none
  | _ => none

/-- An exponent part, if the text starts with `e`, perhaps a sign, and a digit. -/
def exponentPart? : List Char → Option (Int × List Char)
  | e :: rest =>
    if e = 'e' ∨ e = 'E' then
      let (negative, body) := Text.takeSign rest
      let (digits, rest) := spanDigits body
      if digits.isEmpty then none
      else some (Text.signed negative (Text.digitsValue digits), rest)
    else none
  | [] => none

/-- The whole part of a numeral: a zero alone, or digits that do not start with one. -/
def wholePart? : List Char → Option (List Char × List Char)
  | '0' :: rest => some (['0'], rest)
  | d :: rest => if d.isDigit then some (spanDigits (d :: rest)) else none
  | [] => none

/-- Reads a numeral. `start` is how much was left at its start. -/
def numeral? (start : Nat) (negative : Bool) (cs : List Char) : Read (Value × List Char) :=
  match wholePart? cs with
  | none => .error (.fault .expectingValue start)
  | some (whole, rest) =>
    let fraction := fractionPart? rest
    let (fractionDigits, rest) := fraction.getD ([], rest)
    let exponent := exponentPart? rest
    let (power, rest) := exponent.getD (0, rest)
    if fraction.isSome || exponent.isSome then
      .ok (.float (Binary64.ofDecimal negative (Text.digitsValue (whole ++ fractionDigits))
        (power - fractionDigits.length)), rest)
    else match Text.integerOfDigits negative whole with
      | .ok n => .ok (.int n, rest)
      | .error (.tooManyDigits count) => .error (.tooManyDigits count)
      | .error .malformed => .error (.fault .expectingValue start)

/-! ### Values -/

/-- Whether a character may stand between the parts of a JSON text. -/
def isSpace (c : Char) : Bool := c == ' ' || c == '\t' || c == '\n' || c == '\r'

/-- The text without leading space. -/
def skipSpace (cs : List Char) : List Char := cs.dropWhile isSpace

/-- Reads a value that is neither a text nor a container. -/
def scalar? (cs : List Char) : Read (Value × List Char) :=
  match cs with
  | 'n' :: 'u' :: 'l' :: 'l' :: rest => .ok (.null, rest)
  | 't' :: 'r' :: 'u' :: 'e' :: rest => .ok (.bool true, rest)
  | 'f' :: 'a' :: 'l' :: 's' :: 'e' :: rest => .ok (.bool false, rest)
  | 'N' :: 'a' :: 'N' :: rest => .ok (.float .nan, rest)
  | 'I' :: 'n' :: 'f' :: 'i' :: 'n' :: 'i' :: 't' :: 'y' :: rest =>
    .ok (.float (.infinity false), rest)
  | '-' :: 'I' :: 'n' :: 'f' :: 'i' :: 'n' :: 'i' :: 't' :: 'y' :: rest =>
    .ok (.float (.infinity true), rest)
  | '-' :: rest => numeral? cs.length true rest
  | _ => numeral? cs.length false cs

mutual

/-- Reads a value at the start of a text. -/
def value? : Nat → List Char → Read (Value × List Char)
  | 0, cs => failAt .expectingValue cs
  | fuel + 1, cs =>
    match cs with
    | [] => failAt .expectingValue []
    | '"' :: rest => do
      let (s, rest) ← text? rest
      .ok (.str s, rest)
    | '[' :: rest =>
      match skipSpace rest with
      | ']' :: rest => .ok (.list .plain [], rest)
      | rest => do
        let (items, rest) ← items? fuel rest
        .ok (.list .plain items, rest)
    | '\x7b' :: rest =>
      match skipSpace rest with
      | '\x7d' :: rest => .ok (.object .plain [], rest)
      | rest => do
        let (entries, rest) ← members? fuel rest
        .ok (.object .plain (Members.ofEntries entries), rest)
    | cs => scalar? cs

/-- Reads the items of a list that has at least one, up to the closing bracket. -/
def items? : Nat → List Char → Read (List Value × List Char)
  | 0, cs => failAt .expectingValue cs
  | fuel + 1, cs => do
    let (v, rest) ← value? fuel cs
    match skipSpace rest with
    | ']' :: rest => .ok ([v], rest)
    | ',' :: rest => do
      let (vs, rest) ← items? fuel (skipSpace rest)
      .ok (v :: vs, rest)
    | rest => failAt .expectingComma rest

/-- Reads the members of an object that has at least one, up to the closing brace. -/
def members? : Nat → List Char → Read (List (String × Value) × List Char)
  | 0, cs => failAt .expectingName cs
  | fuel + 1, cs =>
    match cs with
    | '"' :: rest => do
      let (name, rest) ← text? rest
      match skipSpace rest with
      | ':' :: rest => do
        let (v, rest) ← value? fuel (skipSpace rest)
        match skipSpace rest with
        | '\x7d' :: rest => .ok ([(name, v)], rest)
        | ',' :: rest => do
          let (entries, rest) ← members? fuel (skipSpace rest)
          .ok ((name, v) :: entries, rest)
        | rest => failAt .expectingComma rest
      | rest => failAt .expectingColon rest
    | cs => failAt .expectingName cs

end

/-! ### Whole texts -/

/-- The place in a text before which all but `left` characters stand. -/
def faultAt (cs : List Char) (kind : FaultKind) (left : Nat) : Fault :=
  let before := cs.take (cs.length - left)
  let lines := before.count '\n'
  let column := (before.reverse.takeWhile (· != '\n')).length
  ⟨kind, lines + 1, column + 1, before.length⟩

/-- Reads a text that is one value between space. -/
def readChars (cs : List Char) : Read Value :=
  match cs with
  | '\ufeff' :: _ => failAt .byteOrderMark cs
  | _ => do
    let (v, rest) ← value? (2 * cs.length + 2) (skipSpace cs)
    match skipSpace rest with
    | [] => .ok v
    | rest => failAt .extraData rest

/-- Reads a text that is one value. -/
def read (s : String) : Except ReadError Value :=
  let cs := s.toList
  match readChars cs with
  | .ok v => .ok v
  | .error (.fault kind left) => .error (.syntaxFault (faultAt cs kind left))
  | .error (.tooManyDigits count) => .error (.tooManyDigits count)

end DocView.Json
