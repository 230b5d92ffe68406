import DocView.Calendar.Iso
import DocView.Text.Printable

/-!
# Quoted literals

A text shown inside a message or a list stands in quotes: single ones, unless it holds a single
quote and no double one. Backslashes, the enclosing quote, and all characters that are not
printable are escaped, the latter by their number.

## Main definitions

* `Text.quoted`, `Text.quotedBytes`
-/

namespace DocView.Text

/-- A number in lower-case hexadecimal with at least `width` digits. -/
def paddedHex (width n : Nat) : List Char :=
  let ds := Nat.toDigits 16 n
  List.replicate (width - ds.length) '0' ++ ds

/-- The quote to enclose characters in. -/
def enclosingQuote (cs : List Char) : Char :=
  if cs.contains '\'' && !cs.contains '"' then '"' else '\''

/-- The escapes that a literal writes with a letter. -/
def letterEscape? (c : Char) : Option Char :=
  if c = '\n' then some 'n' else if c = '\r' then some 'r' else if c = '\t' then some 't'
  else none

/-- A character of a text literal. -/
def quotedChar (quote c : Char) : List Char :=
  if c = quote ∨ c = '\\' then ['\\', c]
  else match letterEscape? c with
    | some letter => ['\\', letter]
    | none =>
      if isPrintable c then [c]
      else if c.toNat < 0x100 then '\\' :: 'x' :: paddedHex 2 c.toNat
      else if c.toNat < 0x10000 then '\\' :: 'u' :: paddedHex 4 c.toNat
      else '\\' :: 'U' :: paddedHex 8 c.toNat

/-- A text as a literal. -/
def quoted (s : String) : String :=
  let quote := enclosingQuote s.toList
  String.ofList (quote :: s.toList.flatMap (quotedChar quote) ++ [quote])

/-- A byte of a byte literal. -/
def quotedByte (quote : Char) (b : UInt8) : List Char :=
  let c := Char.ofNat b.toNat
  if c = quote ∨ c = '\\' then ['\\', c]
  else match letterEscape? c with
    | some letter => ['\\', letter]
    | none =>
      if 32 ≤ b.toNat ∧ b.toNat < 127 then [c] else '\\' :: 'x' :: paddedHex 2 b.toNat

/-- A byte string as a literal. -/
def quotedBytes (bs : List UInt8) : String :=
  let quote := enclosingQuote (bs.map fun b => Char.ofNat b.toNat)
  String.ofList ('b' :: quote :: bs.flatMap (quotedByte quote) ++ [quote])

end DocView.Text
