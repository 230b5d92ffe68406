import DocView.Calendar.Iso

/-!
# Time stamps

A time stamp is a moment in universal time, written to the millisecond with a closing `Z`. What is
finer than a millisecond is cut off.

## Main definitions

* `Date.ofDayNumber`, `Moment.ofMicros`
* `Moment.stamp`
-/

namespace DocView

/-- The date that lies so many days after the first of January 1970. Days are counted in cycles
of four hundred years that start with a March, so that a leap day ends a year. -/
def Date.ofDayNumber (days : Nat) : Date :=
  let shifted := days + 719468
  let cycle := shifted / 146097
  let dayOfCycle := shifted % 146097
  let yearOfCycle :=
    (dayOfCycle - dayOfCycle / 1460 + dayOfCycle / 36524 - dayOfCycle / 146096) / 365
  let dayOfYear := dayOfCycle - (365 * yearOfCycle + yearOfCycle / 4 - yearOfCycle / 100)
  let month := (5 * dayOfYear + 2) / 153
  let day := dayOfYear - (153 * month + 2) / 5 + 1
  let year := cycle * 400 + yearOfCycle
  if month < 10 then ⟨year, month + 3, day⟩ else ⟨year + 1, month - 9, day⟩

/-- The moment so many microseconds after the start of 1970, in universal time. -/
def Moment.ofMicros (micros : Nat) : Moment :=
  let seconds := micros / 1000000
  ⟨.ofDayNumber (seconds / 86400), seconds / 3600 % 24, seconds / 60 % 60, seconds % 60,
    micros % 1000000, some 0⟩

/-- A moment in universal time as a time stamp. -/
def Moment.stamp (m : Moment) : String :=
  m.date.text ++ "T" ++ paddedNat 2 m.hour ++ ":" ++ paddedNat 2 m.minute ++ ":"
    ++ paddedNat 2 m.second ++ "." ++ paddedNat 3 (m.micro / 1000) ++ "Z"

end DocView
