/-!
# Double-precision numbers, exactly

A document may hold a double, and every comparison, conversion and printed form of it has to be
the exact one: an integer of any size is compared with a double by value, and a decimal text is
the double nearest to it. So a double is kept as its sixty-four bits and every operation is said
in integers.

## One unit for all of them

Every finite double is a whole multiple of `2 ^ -1074`, the smallest positive one. `units x` is
that multiple, an `Int`; it makes order, equality and integrality of doubles statements about
integers, and an integer `n` takes part as `n * 2 ^ 1074`.

## Rounding

`ofRatio` is the only place where a value is rounded: it takes a ratio of two naturals to the
nearest double, a tie going to the even significand. Reading decimals, dividing microseconds and
scaling by a thousand all go through it.

## Main definitions

* `Binary64` - a double as its bits, with `isNaN`, `isInfinite`, `isFinite`
* `Binary64.units` - the value of a finite double in units of `2 ^ -1074`
* `Binary64.ofRatio` - the nearest double to a ratio
* `Binary64.ofDecimal` - the nearest double to `digits * 10 ^ exponent`
-/

namespace DocView

/-- A double-precision number, kept as the sixty-four bits that encode it. -/
structure Binary64 where
  bits : UInt64
deriving DecidableEq, Repr, Inhabited

namespace Binary64

/-! ### Fields of the encoding -/

/-- Whether the sign bit is set. -/
def negative (x : Binary64) : Bool := x.bits.toNat / Nat.pow 2 63 == 1

/-- The eleven exponent bits. -/
def exponentField (x : Binary64) : Nat := x.bits.toNat / Nat.pow 2 52 % Nat.pow 2 11

/-- The fifty-two fraction bits. -/
def fraction (x : Binary64) : Nat := x.bits.toNat % Nat.pow 2 52

/-- All exponent bits set and some fraction bit set: not a number. -/
def isNaN (x : Binary64) : Bool := x.exponentField == 2047 && x.fraction != 0

/-- All exponent bits set and no fraction bit set. -/
def isInfinite (x : Binary64) : Bool := x.exponentField == 2047 && x.fraction == 0

/-- Neither infinite nor a NaN. -/
def isFinite (x : Binary64) : Bool := x.exponentField != 2047

/-! ### The value of a finite double -/

/-- The significand as a whole number: the hidden bit is present from exponent field one on. -/
def significand (x : Binary64) : Nat :=
  if x.exponentField = 0 then x.fraction else Nat.pow 2 52 + x.fraction

/-- The power of two that multiplies the significand, counted in units. -/
def shift (x : Binary64) : Nat := x.exponentField - 1

/-- The absolute value of a finite double in units of `2 ^ -1074`. -/
def magnitude (x : Binary64) : Nat := x.significand * Nat.pow 2 x.shift

/-- The number of units in one. -/
def unitsPerOne : Nat := Nat.pow 2 1074

/-- The value of a finite double in units of `2 ^ -1074`. -/
def units (x : Binary64) : Int := if x.negative then -(x.magnitude : Int) else x.magnitude

/-- Whether the value is a whole number. Infinities and NaN are not. -/
def isIntegral (x : Binary64) : Bool := x.isFinite && x.magnitude % unitsPerOne == 0

/-- The whole part of a finite double, cut toward zero. -/
def truncate (x : Binary64) : Int := x.units.tdiv unitsPerOne

/-- Positive or negative zero. -/
def isZero (x : Binary64) : Bool := x.isFinite && x.magnitude == 0

/-! ### Rounding -/

/-- The quotient rounded to the nearest whole number, a tie to the even one. -/
def roundDiv (num den : Nat) : Nat :=
  let q := num / den
  let twice := 2 * (num % den)
  if den < twice then q + 1
  else if twice = den then q + q % 2
  else q

/-- The bits of positive infinity, one past those of the largest finite double. -/
def infinityBits : Nat := 2047 * Nat.pow 2 52

/-- A double from its sign and its remaining bits; what does not fit is an infinity. -/
def ofSignBits (negative : Bool) (bits : Nat) : Binary64 :=
  let capped := min bits infinityBits
  ⟨UInt64.ofNat (if negative then Nat.pow 2 63 + capped else capped)⟩

/-- Positive or negative infinity. -/
def infinity (negative : Bool) : Binary64 := ofSignBits negative infinityBits

/-- The NaN that a reader produces. -/
def nan : Binary64 := ⟨UInt64.ofNat (infinityBits + Nat.pow 2 51)⟩

/-- The double nearest to `num / den` with the given sign, a tie going to the even significand.
The shift is chosen so that the significand has fifty-three bits, or is zero for the values below
the smallest normal one; a significand that rounds up to `2 ^ 53` carries into the exponent field
by plain addition. -/
def ofRatio (negative : Bool) (num den : Nat) : Binary64 :=
  let scaled := num * unitsPerOne
  let whole := scaled / den
  let k := if whole < Nat.pow 2 53 then 0 else Nat.log2 whole - 52
  ofSignBits negative (k * Nat.pow 2 52 + roundDiv scaled (den * Nat.pow 2 k))

/-- The double nearest to `digits * 10 ^ exponent`. Exponents far outside the range of doubles
are answered without building the power. -/
def ofDecimal (negative : Bool) (digits : Nat) (exponent : Int) : Binary64 :=
  if digits = 0 then ofSignBits negative 0
  else
    let size : Int := (Nat.log2 digits : Int) * 30103 / 100000 + exponent
    if 320 < size then infinity negative
    else if size < -400 then ofSignBits negative 0
    else if 0 ≤ exponent then ofRatio negative (digits * Nat.pow 10 exponent.toNat) 1
    else ofRatio negative digits (Nat.pow 10 (-exponent).toNat)

/-- The double nearest to an integer. -/
def ofInt (n : Int) : Binary64 := ofRatio (n < 0) n.natAbs 1

/-- The product with a natural number, rounded once. -/
def scale (x : Binary64) (n : Nat) : Binary64 :=
  if x.isFinite then ofRatio x.negative (x.magnitude * n) unitsPerOne else x

/-! ### Comparison -/

/-- Where a double stands among the extended integers of units; a NaN stands nowhere. -/
inductive Place where
  | below
  | at (units : Int)
  | above
deriving DecidableEq, Repr

/-- The place of a double, `none` for a NaN. -/
def place? (x : Binary64) : Option Place :=
  if x.isNaN then none
  else if x.isInfinite then some (if x.negative then .below else .above)
  else some (.at x.units)

namespace Place

/-- The place of an integer. -/
def ofInt (n : Int) : Place := .at (n * unitsPerOne)

/-- Strict order of places. -/
def lt : Place → Place → Bool
  | .below, .below => false
  | .below, _ => true
  | .at _, .below => false
  | .at a, .at b => decide (a < b)
  | .at _, .above => true
  | .above, _ => false

end Place

end Binary64

end DocView
