import DocView.Binary64.Basic

/-!
# The shortest decimal of a double

A double is written with the fewest significant digits that read back as the same double, and
among those with the ones nearest to it.

## How the digits are found

The reals that round to a finite double form an interval around it, closed exactly when its
significand is even. For one digit, two digits and so on, only two points of that decimal grid
can be nearest to the value: the one just below and the one just above. The first grid of which
one lies in the interval decides. All of it is arithmetic on naturals, in quarter units so that
the ends of the interval are whole.

## Main definitions

* `Binary64.Interval` - the reals that round to a double, in quarter units
* `Binary64.shortest` - digits and power of ten
* `Binary64.text` - the written form: positional from `1e-4` up to below `1e16`
-/

namespace DocView

namespace Binary64

/-- The reals that round to a positive finite double, in quarters of a unit. -/
structure Interval where
  low : Nat
  value : Nat
  high : Nat
  closed : Bool

/-- The interval of a double's absolute value. Below a power of two the spacing halves, so the
lower end is nearer there. -/
def interval (x : Binary64) : Interval :=
  let m := x.significand
  let scale := Nat.pow 2 x.shift
  { low := (if m = Nat.pow 2 52 ∧ 0 < x.shift then 4 * m - 1 else 4 * m - 2) * scale
    value := 4 * m * scale
    high := (4 * m + 2) * scale
    closed := m % 2 == 0 }

/-- Whether the ratio `num / den`, in quarter units, rounds to the double. -/
def Interval.contains (i : Interval) (num den : Nat) : Bool :=
  if i.closed then decide (i.low * den ≤ num) && decide (num ≤ i.high * den)
  else decide (i.low * den < num) && decide (num < i.high * den)

/-- A decimal `digits * 10 ^ exponent`. -/
structure Decimal where
  digits : Nat
  exponent : Int
deriving DecidableEq, Repr

/-- Quarter units in one. -/
def quartersPerOne : Nat := 4 * unitsPerOne

/-- The number of digits before the decimal point, negative for leading zeros after it: the `p`
with `10 ^ (p - 1) ≤ value < 10 ^ p`. Four hundred extra places make every positive double whole
and positive. -/
def pointPosition (quarters : Nat) : Int :=
  (Nat.toDigits 10 (quarters * Nat.pow 10 400 / quartersPerOne)).length - 400

/-- The better of the two neighbours of the value on the grid `10 ^ exponent`, if one of them
rounds to the double. -/
def onGrid (i : Interval) (exponent : Int) : Option Decimal :=
  -- the grid step, as a ratio in quarter units
  let num := quartersPerOne * Nat.pow 10 exponent.toNat
  let den := Nat.pow 10 (-exponent).toNat
  let below := i.value * den / num
  let above := below + 1
  let belowFits := decide (0 < below) && i.contains (below * num) den
  let aboveFits := i.contains (above * num) den
  let toBelow := i.value * den - below * num
  let toAbove := above * num - i.value * den
  if belowFits && aboveFits then
    if toBelow < toAbove then some ⟨below, exponent⟩
    else if toAbove < toBelow then some ⟨above, exponent⟩
    else some ⟨if below % 2 = 0 then below else above, exponent⟩
  else if belowFits then some ⟨below, exponent⟩
  else if aboveFits then some ⟨above, exponent⟩
  else none

/-- The shortest decimal of a positive finite double. Seventeen digits always suffice, so the
last grid is taken as it is. -/
def shortest (x : Binary64) : Decimal :=
  let i := x.interval
  let point := pointPosition i.value
  ((List.range 17).findSome? fun (n : Nat) => onGrid i (point - (n + 1))).getD ⟨0, 0⟩

/-- A decimal without trailing zeros. The first argument bounds the number of zeros taken off. -/
def Decimal.trim : Nat → Decimal → Decimal
  | 0, d => d
  | fuel + 1, d =>
    if d.digits ≠ 0 ∧ d.digits % 10 = 0 then Decimal.trim fuel ⟨d.digits / 10, d.exponent + 1⟩
    else d

/-! ### Layout -/

/-- How a decimal is laid out: the decimal exponents written positionally are those from `least`
up to, not including, `limit`, and an exponent has at least `exponentWidth` digits. -/
structure Layout where
  least : Int
  limit : Int
  exponentWidth : Nat

/-- Doubles are positional from `1e-4` to below `1e16`, and exponents have two digits. -/
def documentLayout : Layout := ⟨-4, 16, 2⟩

/-- A run of zeros. -/
def zeros (n : Nat) : List Char := List.replicate n '0'

/-- A positive decimal in a layout. A positional one always has a fraction part. -/
def Layout.write (layout : Layout) (d : Decimal) : List Char :=
  let ds := Nat.toDigits 10 d.digits
  let point : Int := ds.length + d.exponent
  let e := point - 1
  if layout.least ≤ e ∧ e < layout.limit then
    if point ≤ 0 then '0' :: '.' :: zeros (-point).toNat ++ ds
    else if ds.length ≤ point.toNat then ds ++ zeros (point.toNat - ds.length) ++ ['.', '0']
    else ds.take point.toNat ++ '.' :: ds.drop point.toNat
  else
    let mantissa := match ds with
      | [] => []
      | [c] => [c]
      | c :: rest => c :: '.' :: rest
    let size := Nat.toDigits 10 e.natAbs
    mantissa ++ ['e', if e < 0 then '-' else '+']
      ++ zeros (layout.exponentWidth - size.length) ++ size

/-- The written form of a double. -/
def text (x : Binary64) : String :=
  if x.isNaN then "nan"
  else
    let sign := if x.negative then "-" else ""
    if x.isInfinite then sign ++ "inf"
    else if x.isZero then sign ++ "0.0"
    else sign ++ String.ofList (documentLayout.write (x.shortest.trim 17))

end Binary64

end DocView
