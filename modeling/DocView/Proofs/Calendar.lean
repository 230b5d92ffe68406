import DocView.Calendar.Iso
import Mathlib.Algebra.Group.Nat.Defs
import Mathlib.Tactic.SplitIfs

/-!
# Dates and moments that the calendar has

A moment is a record of numbers, and not every such record is a point in time. The reader of texts
makes only those that are: it looks the date up in the calendar, it checks the hour, the minute and
the second, and a fraction has at most six digits that count. The distance from universal time has
to stay below a day.

## Main definitions

* `Date.IsProper`, `Moment.IsProper`

## Main results

* `Moment.isLocal_inUniversalTime`, `Moment.instant_inUniversalTime`
* `Moment.isProper_of_ofIso?` - what the reader makes of a text
-/

namespace DocView

/-- A day that the calendar has. -/
structure Date.IsProper (d : Date) : Prop where
  year : 1 ≤ d.year ∧ d.year ≤ 9999
  month : 1 ≤ d.month ∧ d.month ≤ 12
  day : 1 ≤ d.day ∧ d.day ≤ Date.daysInMonth d.year d.month

/-- A time of a day that the calendar has, on a clock that is less than a day off. -/
structure Moment.IsProper (m : Moment) : Prop where
  date : m.date.IsProper
  hour : m.hour < 24
  minute : m.minute < 60
  second : m.second < 60
  micro : m.micro < 1000000
  offset : ∀ distance ∈ m.offset, distance.natAbs < 86400000000

theorem Date.isProper_of_ofParts? {year month day : Nat} {d : Date}
    (h : Date.ofParts? year month day = some d) : d.IsProper := by
  unfold Date.ofParts? at h
  split at h
  next hparts =>
    obtain rfl := Option.some.inj h
    obtain ⟨hy, hy', hm, hm', hd, hd'⟩ := hparts
    exact ⟨⟨hy, hy'⟩, ⟨hm, hm'⟩, hd, hd'⟩
  next => cases h

/-! ### Universal time -/

namespace Moment

theorem isLocal_inUniversalTime (m : Moment) : m.inUniversalTime.isLocal = false := by
  unfold inUniversalTime
  split
  next => rfl
  next hlocal => exact Bool.eq_false_iff.mpr hlocal

/-- A moment with a distance from universal time is left as it is. -/
theorem inUniversalTime_eq_self {m : Moment} (h : m.isLocal = false) : m.inUniversalTime = m := by
  rw [inUniversalTime, h, if_neg Bool.false_ne_true]

theorem instant_inUniversalTime (m : Moment) : m.inUniversalTime.instant = m.instant := by
  unfold inUniversalTime
  split
  next hlocal => rw [instant, instant, Option.isNone_iff_eq_none.mp hlocal]; rfl
  next => rfl

/-- A local moment that is proper is so in universal time. -/
theorem IsProper.inUniversalTime {m : Moment} (h : m.IsProper) : m.inUniversalTime.IsProper := by
  unfold Moment.inUniversalTime
  split
  · exact { h with offset := by simp }
  · exact h

end Moment

theorem Moment.isProper_startOf {d : Date} (h : d.IsProper) : (Moment.startOf d).IsProper where
  date := h
  hour := Nat.zero_lt_succ _
  minute := Nat.zero_lt_succ _
  second := Nat.zero_lt_succ _
  micro := Nat.zero_lt_succ _
  offset := by simp [Moment.startOf]

/-! ### Reading -/

namespace Iso

variable {cs : List Char}

theorem asciiDigit?_lt {c : Char} {n : Nat} (h : asciiDigit? c = some n) : n < 10 := by
  unfold asciiDigit? at h
  split at h
  next hc =>
    obtain ⟨hlow, hhigh⟩ := Char.isDigit_iff_toNat.mp hc
    have hhigh : c.toNat ≤ 57 := hhigh
    cases h
    omega
  next => cases h

/-- Digits behind a number give a number with as many digits more. -/
theorem allDigits?_lt_from {acc n : Nat}
    (h : cs.foldlM (fun n c => (asciiDigit? c).map (10 * n + ·)) acc = some n) :
    n < (acc + 1) * 10 ^ cs.length := by
  induction cs generalizing acc with
  | nil =>
    cases h
    simp
  | cons c rest ih =>
    rw [List.foldlM_cons, Option.bind_eq_bind, Option.bind_eq_some_iff] at h
    obtain ⟨_, hfirst, hrest⟩ := h
    obtain ⟨d, hd, rfl⟩ := Option.map_eq_some_iff.mp hfirst
    have hlt := asciiDigit?_lt hd
    calc n < (10 * acc + d + 1) * 10 ^ rest.length := ih hrest
      _ ≤ ((acc + 1) * 10) * 10 ^ rest.length := Nat.mul_le_mul_right _ (by omega)
      _ = (acc + 1) * 10 ^ (rest.length + 1) := by rw [Nat.mul_assoc, Nat.pow_succ']

theorem fraction?_lt {micro : Nat} {leftover : Bool} (h : fraction? cs = some (micro, leftover)) :
    micro < 1000000 := by
  unfold fraction? at h
  obtain ⟨n, hn, h⟩ := Option.bind_eq_some_iff.mp h
  obtain ⟨rfl, -⟩ := Prod.mk.inj (Option.some.inj h)
  have hlength : (cs.take 6).length ≤ 6 := List.length_take_le 6 cs
  have hdigits : n < 10 ^ (cs.take 6).length := by simpa using allDigits?_lt_from hn
  calc n * 10 ^ (6 - (cs.take 6).length)
      < 10 ^ (cs.take 6).length * 10 ^ (6 - (cs.take 6).length) :=
        Nat.mul_lt_mul_of_pos_right hdigits (Nat.pow_pos (by decide))
    _ = 10 ^ 6 := by rw [← Nat.pow_add, Nat.add_sub_cancel' hlength]

/-- However many fields are still to be read, the fraction comes last. -/
theorem fields?_lt {n : Nat} {colons : Option Bool} {fields read : List Nat} {micro : Nat}
    {leftover : Bool} (h : fields? n colons fields cs = some (read, micro, leftover)) :
    micro < 1000000 := by
  have hlast : ∀ {cs : List Char} {colons : Option Bool} {fields : List Nat},
      fields? 0 colons fields cs = some (read, micro, leftover) → micro < 1000000 := by
    intro cs colons fields h
    rw [fields?] at h
    obtain ⟨⟨_, _⟩, hfraction, h⟩ := Option.bind_eq_some_iff.mp h
    cases h
    exact fraction?_lt hfraction
  induction n generalizing colons fields cs with
  | zero => exact hlast h
  | succ n ih =>
    rw [fields?] at h
    obtain ⟨⟨value, rest⟩, -, h⟩ := Option.bind_eq_some_iff.mp h
    dsimp only at h
    split at h
    · -- The text ends behind the field.
      cases h
      exact Nat.zero_lt_succ _
    · split_ifs at h
      · cases h
        exact Nat.zero_lt_succ _
      · exact ih h
      · exact hlast h
      · exact ih h

theorem reading?_lt {r : Reading} (h : reading? cs = some r) : r.micro < 1000000 := by
  obtain ⟨⟨_, micro, _⟩, hfields, h⟩ := Option.bind_eq_some_iff.mp h
  obtain rfl := Option.some.inj h
  exact fields?_lt hfields

theorem offset?_lt {distance : Int} (h : offset? cs = some distance) :
    distance.natAbs < 86400000000 := by
  unfold offset? at h
  split at h
  · split at h
    · cases h
      decide
    · split at h
      · cases h
        decide
      · cases h
  · obtain ⟨r, -, h⟩ := Option.bind_eq_some_iff.mp h
    dsimp only at h
    split_ifs at h with _ hday
    all_goals
      obtain rfl := Option.some.inj h
      omega
  · cases h

/-- A time of day is one of a clock, and so is its distance from universal time. -/
theorem time?_proper {r : Reading} {offset : Option Int} (h : time? cs = some (r, offset)) :
    (r.hour < 24 ∧ r.minute < 60 ∧ r.second < 60) ∧ r.micro < 1000000 ∧
      ∀ distance ∈ offset, distance.natAbs < 86400000000 := by
  unfold time? at h
  obtain ⟨r', hr', h⟩ := Option.bind_eq_some_iff.mp h
  have hmicro := reading?_lt hr'
  split at h
  next => cases h
  next hclock =>
    have hclock := Decidable.not_not.mp hclock
    split at h
    next =>
      split at h
      next => cases h
      next =>
        cases h
        exact ⟨hclock, hmicro, by simp⟩
    next =>
      obtain ⟨distance, hdistance, h⟩ := Option.bind_eq_some_iff.mp h
      cases h
      refine ⟨hclock, hmicro, fun other hother => ?_⟩
      obtain rfl := Option.some.inj hother
      exact offset?_lt hdistance

theorem date?_proper {d : Date} {rest : List Char} (h : date? cs = some (d, rest)) :
    d.IsProper := by
  unfold date? at h
  split at h
  next =>
    obtain ⟨_, -, h⟩ := Option.bind_eq_some_iff.mp h
    obtain ⟨_, -, h⟩ := Option.bind_eq_some_iff.mp h
    obtain ⟨_, -, h⟩ := Option.bind_eq_some_iff.mp h
    obtain ⟨date, hdate, h⟩ := Option.bind_eq_some_iff.mp h
    cases h
    exact Date.isProper_of_ofParts? hdate
  next => cases h

end Iso

/-- **The reader makes only moments that the calendar has**, whatever the text. -/
theorem Moment.isProper_of_ofIso? {cs : List Char} {m : Moment} (h : Moment.ofIso? cs = some m) :
    m.IsProper := by
  unfold ofIso? at h
  obtain ⟨⟨date, rest⟩, hread, h⟩ := Option.bind_eq_some_iff.mp h
  have hdate := Iso.date?_proper hread
  dsimp only at h
  split at h
  next =>
    cases h
    exact ⟨hdate, Nat.zero_lt_succ _, Nat.zero_lt_succ _, Nat.zero_lt_succ _, Nat.zero_lt_succ _,
      by simp⟩
  next =>
    obtain ⟨⟨r, offset⟩, htime, h⟩ := Option.bind_eq_some_iff.mp h
    cases h
    obtain ⟨⟨hhour, hminute, hsecond⟩, hmicro, hoffset⟩ := Iso.time?_proper htime
    exact ⟨hdate, hhour, hminute, hsecond, hmicro, hoffset⟩

end DocView
