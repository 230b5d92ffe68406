import DocView.Proofs.Calendar
import DocView.Proofs.Filter.Number
import DocView.Proofs.Text.Numeral

/-!
# What coercions answer

A coercion takes any value and answers, with a value of its kind or with none: a number that is
finite, a truth value, a moment that the calendar has and that knows its distance from universal
time. There is one exception. A text is taken as an integer by the digits that it starts with,
and when there are more of them than an integer text may have, it is refused with an error. What
follows the digits has no part in that.

## Main definitions

* `IsOverlongInteger` - values that are refused as integers
* `ReadsAsInteger`
* `Value.HasProperTime`

## Main results

* `coerceInteger_eq_error_iff`, `exists_coerceInteger_iff` - when there is an answer
* `readsAsInteger_coerceInteger` - what it is for a text
* `isProper_of_coerceDate`
* `coerceDate_moment`, `coerceNumber_toValue` - what was coerced is left as it is
-/

namespace DocView

variable {v : Value} {s : String} {e : Error} {count : Nat}

/-! ### Integers -/

/-- A value is refused as an integer if it is a text that starts, after blanks and a sign, with more
digits than an integer text may have. -/
def IsOverlongInteger (v : Value) (count : Nat) : Prop :=
  ∃ s negative digits, v = .str s ∧ Text.StartsWithInteger s negative digits ∧
    digits.length = count ∧ Text.maxDigits < count

theorem IsOverlongInteger.tooMany (h : IsOverlongInteger v count) : Text.maxDigits < count := by
  obtain ⟨_, _, _, -, -, -, hmany⟩ := h
  exact hmany

theorem isOverlongInteger_str_iff : IsOverlongInteger (.str s) count ↔
    Text.leadingInteger? s = some (.error (.tooManyDigits count)) := by
  rw [Text.leadingInteger?_eq_some_iff]
  constructor
  · rintro ⟨_, negative, digits, heq, hstarts, rfl, hmany⟩
    obtain rfl := Value.str.inj heq
    exact ⟨negative, digits, hstarts, by rw [Text.integerOfDigits, if_pos hmany]⟩
  · rintro ⟨negative, digits, hstarts, h⟩
    unfold Text.integerOfDigits at h
    split at h
    next hmany =>
      obtain rfl := Text.IntegerFault.tooManyDigits.inj (Except.error.inj h)
      exact ⟨s, negative, digits, rfl, hstarts, rfl, hmany⟩
    next => cases h

/-- A text that is refused has room for the digits, with the blanks around it taken off. -/
theorem IsOverlongInteger.le_length_strip (h : IsOverlongInteger (.str s) count) :
    count ≤ (Text.stripList s.toList).length := by
  obtain ⟨_, _, _, heq, hstarts, rfl, -⟩ := h
  obtain rfl := Value.str.inj heq
  exact hstarts.length_le

/-- No text is refused that has no more characters than an integer text may have digits. -/
theorem not_isOverlongInteger_of_length_le (h : s.length ≤ Text.maxDigits) (count : Nat) :
    ¬ IsOverlongInteger (.str s) count := by
  intro hrefused
  have hmany := hrefused.tooMany
  have hstrip := hrefused.le_length_strip
  have hpart := (Text.stripList_isInfix s.toList).length_le
  rw [String.length_toList] at hpart
  omega

/-- **Only such a text is refused, and only for its digits.** -/
theorem coerceInteger_eq_error_iff : coerceInteger v = .error e ↔
    ∃ count, IsOverlongInteger v count ∧ e = .tooManyDigits count := by
  constructor
  · intro h
    unfold coerceInteger at h
    split at h <;> try contradiction
    next text =>
      split at h <;> try contradiction
      next count hlong =>
        cases h
        exact ⟨count, isOverlongInteger_str_iff.mpr hlong, rfl⟩
  · rintro ⟨count, hrefused, rfl⟩
    obtain ⟨text, _, _, rfl, -, -, -⟩ := id hrefused
    rw [coerceInteger, isOverlongInteger_str_iff.mp hrefused]

/-- **Every other value has an answer.** -/
theorem exists_coerceInteger_iff :
    (∃ answer, coerceInteger v = .ok answer) ↔ ∀ count, ¬ IsOverlongInteger v count := by
  constructor
  · rintro ⟨answer, hanswer⟩ count hrefused
    cases hanswer.symm.trans (coerceInteger_eq_error_iff.mpr ⟨count, hrefused, rfl⟩)
  · intro h
    cases hanswer : coerceInteger v with
    | ok answer => exact ⟨answer, rfl⟩
    | error e =>
      obtain ⟨count, hrefused, -⟩ := coerceInteger_eq_error_iff.mp hanswer
      exact absurd hrefused (h count)

/-- What a text is as an integer. -/
inductive ReadsAsInteger (s : String) : Result (Option Int) → Prop where
  /-- It does not start with an integer. -/
  | absent (h : ∀ negative digits, ¬ Text.StartsWithInteger s negative digits) :
    ReadsAsInteger s (.ok none)
  /-- It starts with digits, and they denote an integer. -/
  | read {negative : Bool} {digits : List Char} (h : Text.StartsWithInteger s negative digits)
    (few : digits.length ≤ Text.maxDigits) :
    ReadsAsInteger s (.ok (some (Text.signed negative (Text.digitsValue digits))))
  /-- It starts with too many of them. -/
  | overlong {negative : Bool} {digits : List Char} (h : Text.StartsWithInteger s negative digits)
    (many : Text.maxDigits < digits.length) :
    ReadsAsInteger s (.error (.tooManyDigits digits.length))

/-- **Every text is read by the digits that it starts with.** -/
theorem readsAsInteger_coerceInteger (s : String) : ReadsAsInteger s (coerceInteger (.str s)) := by
  cases hread : Text.leadingInteger? s with
  | none =>
    rw [coerceInteger, hread]
    refine .absent fun negative digits hstarts => ?_
    cases hread.symm.trans hstarts.leadingInteger?
  | some r =>
    obtain ⟨negative, digits, hstarts, rfl⟩ := Text.leadingInteger?_eq_some_iff.mp hread
    unfold Text.integerOfDigits at hread
    split at hread
    next hmany =>
      rw [coerceInteger, hread]
      exact .overlong hstarts hmany
    next hfew =>
      rw [coerceInteger, hread]
      exact .read hstarts (Nat.not_lt.mp hfew)

/-! ### Truth values and dates -/

/-- A truth value is read from the numbers and from the words that mean one, and from nothing
else. -/
theorem isSome_coerceBoolean_iff : (coerceBoolean v).isSome ↔
    v.place?.isSome ∨ ∃ s, v = .str s ∧ Text.lower (Text.strip s) ∈ trueTexts ++ falseTexts := by
  cases v with
  | str s =>
    rw [coerceBoolean]
    split_ifs with htrue hfalse
    · simp [List.contains_iff_mem.mp htrue]
    · simp [List.contains_iff_mem.mp hfalse]
    · simp [Value.place?, mt List.contains_iff_mem.mpr htrue, mt List.contains_iff_mem.mpr hfalse]
  | _ => simp [coerceBoolean, Value.place?]

/-- Dates and moments are those of the calendar. Other values have nothing to do with it. -/
def Value.HasProperTime : Value → Prop
  | .date d => d.IsProper
  | .moment m => m.IsProper
  | _ => True

/-- A date that is found is a moment taken to universal time. -/
theorem exists_of_coerceDate {m : Moment} (h : coerceDate v = some m) :
    ∃ given : Moment, m = given.inUniversalTime ∧ (v.HasProperTime → given.IsProper) := by
  cases v with
  | moment given => exact ⟨given, (Option.some.inj h).symm, id⟩
  | date d => exact ⟨Moment.startOf d, (Option.some.inj h).symm, Moment.isProper_startOf⟩
  | str s =>
    rw [coerceDate] at h
    split at h
    next =>
      obtain ⟨read, hread, rfl⟩ := Option.map_eq_some_iff.mp h
      exact ⟨read, rfl, fun _ => Moment.isProper_of_ofIso? hread⟩
    next => cases h
  | _ => cases h

/-- **A date is coerced to a moment that the calendar has**, and it is not local. -/
theorem isProper_of_coerceDate {m : Moment} (hv : v.HasProperTime) (h : coerceDate v = some m) :
    m.IsProper ∧ m.isLocal = false := by
  obtain ⟨given, rfl, hproper⟩ := exists_of_coerceDate h
  exact ⟨(hproper hv).inUniversalTime, given.isLocal_inUniversalTime⟩

/-- A coerced date coerces to itself. -/
theorem coerceDate_moment {m : Moment} (h : coerceDate v = some m) :
    coerceDate (.moment m) = some m := by
  obtain ⟨given, rfl, -⟩ := exists_of_coerceDate h
  exact congrArg some (Moment.inUniversalTime_eq_self given.isLocal_inUniversalTime)

/-! ### Numbers -/

/-- A coerced number coerces to itself. -/
theorem coerceNumber_toValue {n : Number} (h : coerceNumber v = some n) :
    coerceNumber n.toValue = some n := by
  cases n with
  | int n => rfl
  | float x => exact if_pos (isFinite_of_coerceNumber h)

end DocView
