import DocView.Binary64.Basic

/-!
# Dates and moments

Calendar dates of the years 1 to 9999 and moments on such a date, to the microsecond. A moment
may carry its distance from universal time; one without it is *local*, and a local moment cannot
be put into order with one that has a distance.

Moments with a distance are ordered by `instant`, a number of microseconds since the start of
1970 in universal time.

## Main definitions

* `Date`, `Date.ofParts?`, `Date.dayNumber`
* `Moment`, `Moment.instant`, `Moment.keys?`
* `Moment.millis` - milliseconds since the start of 1970, as a double
-/

namespace DocView

/-- A day of the calendar. -/
structure Date where
  year : Nat
  month : Nat
  day : Nat
deriving DecidableEq, Repr, Inhabited

namespace Date

/-- Every fourth year is a leap year, except for centuries that are not divisible by four. -/
def isLeap (year : Nat) : Bool := year % 4 == 0 && (year % 100 != 0 || year % 400 == 0)

/-- The number of days of a month. -/
def daysInMonth (year month : Nat) : Nat :=
  if month = 2 then (if isLeap year then 29 else 28)
  else if month = 4 ∨ month = 6 ∨ month = 9 ∨ month = 11 then 30
  else 31

/-- The date with these parts, if the calendar has it. -/
def ofParts? (year month day : Nat) : Option Date :=
  if 1 ≤ year ∧ year ≤ 9999 ∧ 1 ≤ month ∧ month ≤ 12 ∧ 1 ≤ day ∧ day ≤ daysInMonth year month then
    some ⟨year, month, day⟩
  else none

/-- Days before the first of a month, within the year. -/
def daysBeforeMonth (year month : Nat) : Nat :=
  (List.range (month - 1)).foldl (fun days i => days + daysInMonth year (i + 1)) 0

/-- Days since the first of January 1970. -/
def dayNumber (d : Date) : Int :=
  let y := d.year - 1
  (y * 365 + y / 4 - y / 100 + y / 400 + daysBeforeMonth d.year d.month + d.day : Nat) - 719163

end Date

/-- A moment: a date, a time of day and, unless it is local, the distance of its clock from
universal time in microseconds, positive to the east. -/
structure Moment where
  date : Date
  hour : Nat
  minute : Nat
  second : Nat
  micro : Nat
  offset : Option Int
deriving DecidableEq, Repr, Inhabited

namespace Moment

/-- Microseconds since the start of 1970 on the moment's own clock. -/
def localMicros (m : Moment) : Int :=
  (m.date.dayNumber * 86400 + m.hour * 3600 + m.minute * 60 + m.second) * 1000000 + m.micro

/-- Microseconds since the start of 1970 in universal time; a local moment is taken as being in
universal time already. -/
def instant (m : Moment) : Int := m.localMicros - m.offset.getD 0

/-- Whether the moment carries no distance from universal time. -/
def isLocal (m : Moment) : Bool := m.offset.isNone

/-- Midnight at the start of a date, in universal time. -/
def startOf (d : Date) : Moment := ⟨d, 0, 0, 0, 0, some 0⟩

/-- The moment itself, a local one taken as being in universal time. -/
def inUniversalTime (m : Moment) : Moment :=
  if m.isLocal then { m with offset := some 0 } else m

/-- The pair of numbers by which two moments are ordered; a local moment and one that is not have
no order. -/
def keys? (a b : Moment) : Option (Int × Int) :=
  if a.isLocal = b.isLocal then some (a.instant, b.instant) else none

/-- Two moments are the same if they are comparable and at the same instant. -/
def same (a b : Moment) : Bool :=
  match keys? a b with
  | some (x, y) => x == y
  | none => false

/-- Milliseconds since the start of 1970: first the seconds as the double nearest to the exact
number of microseconds over a million, then the double nearest to a thousand times that. -/
def millis (m : Moment) : Binary64 :=
  (Binary64.ofRatio (m.instant < 0) m.instant.natAbs 1000000).scale 1000

end Moment

end DocView
