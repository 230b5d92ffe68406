import DocView.Calendar.Iso
import DocView.Error
import DocView.Text.Case
import DocView.Text.Numeral
import DocView.Value.Basic

/-!
# Coercion

Filter values arrive as text while documents keep their own kinds of values. The functions here
are the one place where text becomes a number, a truth value or a date. A value that does not
convert answers `none`.

The one exception is an integer text of more than 4300 digits, which `coerceInteger` refuses with
an error; `coerceNumber` reads such a text as a double instead.

## Main definitions

* `Number`, `coerceNumber`
* `coerceInteger`, `coerceBoolean`, `coerceDate`
-/

namespace DocView

/-- A finite number: an integer of any size or a double that is finite. -/
inductive Number where
  | int (n : Int)
  | float (x : Binary64)
deriving DecidableEq, Repr

/-- A number as a value. -/
def Number.toValue : Number → Value
  | .int n => .int n
  | .float x => .float x

/-- The place of a number among all numbers. -/
def Number.place : Number → Binary64.Place
  | .int n => .ofInt n
  | .float x => .at x.units

/-- A double as a number, unless it is infinite or a NaN. -/
def Number.ofFloat? (x : Binary64) : Option Number := if x.isFinite then some (.float x) else none

/-- The number that a text denotes without the blanks at its ends: an integer if it is one,
otherwise a finite double. -/
def Number.ofText? (s : String) : Option Number :=
  let s := Text.strip s
  if s.toList.contains '_' then none
  else match Text.integer? s with
    | .ok n => some (.int n)
    | .error _ => (Text.decimal? s).bind Number.ofFloat?

/-- A value as a number. Truth values are not numbers. -/
def coerceNumber : Value → Option Number
  | .int n => some (.int n)
  | .float x => Number.ofFloat? x
  | .str s => Number.ofText? s
  | _ => none

/-- A value as an integer: a double is cut toward zero, and a text counts by the integer it starts
with. Truth values are not integers. -/
def coerceInteger : Value → Result (Option Int)
  | .int n => .ok (some n)
  | .float x => .ok (if x.isFinite then some x.truncate else none)
  | .str s =>
    match Text.leadingInteger? s with
    | none => .ok none
    | some (.ok n) => .ok (some n)
    | some (.error (.tooManyDigits count)) => .error (.tooManyDigits count)
    | some (.error .malformed) => .ok none
  | _ => .ok none

/-- The texts that mean true. -/
def trueTexts : List String := ["true", "1", "yes", "y", "on"]

/-- The texts that mean false. -/
def falseTexts : List String := ["false", "0", "no", "n", "off", ""]

/-- A value as a truth value: numbers are true unless they are zero, and a text means one of the
two in any case and with blanks around it. -/
def coerceBoolean : Value → Option Bool
  | .bool b => some b
  | .int n => some (n != 0)
  | .float x => some !x.isZero
  | .str s =>
    let word := Text.lower (Text.strip s)
    if trueTexts.contains word then some true
    else if falseTexts.contains word then some false
    else none
  | _ => none

/-- Whether a text starts like a date: four digits, two and two, of any script, joined by
hyphens. -/
def startsLikeDate (cs : List Char) : Bool :=
  match cs with
  | a :: b :: c :: d :: '-' :: e :: f :: '-' :: g :: h :: _ =>
    [a, b, c, d, e, f, g, h].all Text.isDigit
  | _ => false

/-- A text whose last letter is Z, in either case, ends in the distance zero. -/
def expandZulu (cs : List Char) : List Char :=
  match cs.reverse with
  | c :: before => if c = 'Z' ∨ c = 'z' then before.reverse ++ "+00:00".toList else cs
  | [] => cs

/-- A value as a moment with a distance from universal time. Local moments and plain dates are
taken as being in universal time. -/
def coerceDate : Value → Option Moment
  | .moment m => some m.inUniversalTime
  | .date d => some (Moment.startOf d)
  | .str s =>
    let cs := Text.stripList s.toList
    if startsLikeDate cs then (Moment.ofIso? (expandZulu cs)).map Moment.inUniversalTime
    else none
  | _ => none

end DocView
