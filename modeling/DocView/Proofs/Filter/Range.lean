import DocView.Filter.Evaluation
import DocView.Proofs.Value.Standing
import Mathlib.Tactic.Tauto

/-!
# Ranges and their bounds

A range is tested the other way around. Where the comparison with a bound accepts a value that
stands in the right relation to it, the range rejects a value that stands in the wrong one: before
the lower bound, or after the upper one. Values without an order are rejected on both ways, and
values with an ordering are accepted on both or on neither. What is left are values that are
adrift from a bound: no comparison accepts them, and no range rejects them on that bound's account.

So the two ways part exactly if every bound that speaks against a value does so only by being
adrift from it. It takes a NaN, in the field value or in a bound.

## Main definitions

* `Operator.relation?` - the relation that an operator asks for
* `Filter.Escapes` - a value that is let into a range by a bound that it is adrift from

## Main results

* `Filter.evaluate_relation`, `Filter.evaluate_inRange` - evaluation at bounds that are not blank
* `Filter.inRange_iff` - what a range lets in
* `Filter.evaluate_inRange_iff` - when a range is the conjunction of its bounds
-/

namespace DocView

/-- The relation of field value to filter value that an operator asks for, if it asks for one of
order. -/
def Operator.relation? : Operator → Option Relation
  | .lessThan => some .less
  | .lessThanOrEqual => some .lessOrEqual
  | .greaterThan => some .greater
  | .greaterThanOrEqual => some .greaterOrEqual
  | _ => none

namespace Filter

variable {v low high bound : Value}

/-! ### Evaluation -/

theorem related_absent (hv : v.isNull || v.isUnset) (r : Relation) : related r v bound = false := by
  cases v with
  | null | unset => cases bound <;> simp [related, Value.holds?, Value.place?]
  | _ => cases hv

/-- An operator of order asks for its relation, also of a field value that is missing. -/
theorem evaluate_relation {op : Operator} {r : Relation} (hop : op.relation? = some r)
    (hbound : bound.isBlank = false) (v : Value) :
    evaluate v (some op) bound = .ok (related r v bound) := by
  have hevaluate : evaluate v (some op) bound
      = if v.isNull || v.isUnset then .ok false else .ok (related r v bound) := by
    cases op with
    | lessThan | lessThanOrEqual | greaterThan | greaterThanOrEqual =>
      cases hop
      simp [evaluate, hbound, Operator.isNullCheck, Operator.holdsOfNull, compare]
    | _ => cases hop
  rw [hevaluate]
  split
  · rw [related_absent (by assumption)]
  · rfl

/-- A bound that is not blank keeps out what has no order with it. -/
theorem inRange_absent (hv : v.isNull || v.isUnset)
    (hbounds : low.isBlank = false ∨ high.isBlank = false) : inRange v low high = false := by
  have hholds : ∀ (r : Relation) (bound : Value), Value.holds? r v bound = none := by
    intro r bound
    cases v with
    | null | unset => cases bound <;> simp [Value.holds?, Value.place?]
    | _ => cases hv
  cases hlow : low.isBlank with
  | false => simp [inRange, hlow, hholds]
  | true =>
    have hhigh : high.isBlank = false := hbounds.resolve_left (by simp [hlow])
    simp [inRange, hlow, hhigh, hholds]

theorem evaluate_inRange (form : Form) (hbounds : low.isBlank = false ∨ high.isBlank = false)
    (v : Value) :
    evaluate v (some .inRange) (.list form [low, high]) = .ok (inRange v low high) := by
  have hevaluate : evaluate v (some .inRange) (.list form [low, high])
      = if v.isNull || v.isUnset then .ok false else .ok (inRange v low high) := by
    simp [evaluate, Value.isBlank, Operator.isNullCheck, Operator.holdsOfNull, compare]
  rw [hevaluate]
  split
  · rw [inRange_absent (by assumption) hbounds]
  · rfl

/-! ### Ranges -/

theorem related_iff {r : Relation} :
    related r v bound = true ↔ Value.holds? r v bound = some true := by
  rw [related]
  cases Value.holds? r v bound <;> simp

/-- **What a range lets in.** Each bound has to be blank, or the value on the right side of it or
adrift from it. -/
theorem inRange_iff :
    inRange v low high = true
      ↔ (low.isBlank ∨ v.Adrift low ∨ Value.holds? .greaterOrEqual v low = some true) ∧
        (high.isBlank ∨ v.Adrift high ∨ Value.holds? .lessOrEqual v high = some true) := by
  have hrejects : inRange v low high = true
      ↔ (low.isBlank ∨ Value.holds? .less v low = some false) ∧
        (high.isBlank ∨ Value.holds? .greater v high = some false) := by
    rcases hl : Value.holds? .less v low with _ | _ | _ <;>
    rcases hh : Value.holds? .greater v high with _ | _ | _ <;>
    by_cases hlow : low.isBlank <;> by_cases hhigh : high.isBlank <;>
      simp [inRange, hl, hh, hlow, hhigh]
  rw [hrejects, Value.holds?_eq_false_iff, Value.holds?_eq_false_iff]
  rfl

/-- A range lets a value in that a comparison keeps out: the value is adrift from one bound, and
adrift from the other one too or on the right side of it. -/
def Escapes (v low high : Value) : Prop :=
  v.Adrift low ∧ (v.Adrift high ∨ Value.holds? .lessOrEqual v high = some true) ∨
    Value.holds? .greaterOrEqual v low = some true ∧ v.Adrift high

theorem inRange_eq_iff (hlow : low.isBlank = false) (hhigh : high.isBlank = false) :
    inRange v low high = (related .greaterOrEqual v low && related .lessOrEqual v high)
      ↔ ¬ Escapes v low high := by
  have hlowAdrift : v.Adrift low → Value.holds? .greaterOrEqual v low ≠ some true :=
    fun h => h.holds?_ne .greaterOrEqual
  have hhighAdrift : v.Adrift high → Value.holds? .lessOrEqual v high ≠ some true :=
    fun h => h.holds?_ne .lessOrEqual
  rw [Bool.eq_iff_iff, Bool.and_eq_true, related_iff, related_iff, inRange_iff, hlow, hhigh,
    Escapes]
  tauto

theorem inRange_eq_lessOrEqual_iff (hlow : low.isBlank) (hhigh : high.isBlank = false) :
    inRange v low high = related .lessOrEqual v high ↔ ¬ v.Adrift high := by
  have hadrift : v.Adrift high → Value.holds? .lessOrEqual v high ≠ some true :=
    fun h => h.holds?_ne .lessOrEqual
  rw [Bool.eq_iff_iff, related_iff, inRange_iff, hlow, hhigh]
  tauto

theorem inRange_eq_greaterOrEqual_iff (hlow : low.isBlank = false) (hhigh : high.isBlank) :
    inRange v low high = related .greaterOrEqual v low ↔ ¬ v.Adrift low := by
  have hadrift : v.Adrift low → Value.holds? .greaterOrEqual v low ≠ some true :=
    fun h => h.holds?_ne .greaterOrEqual
  rw [Bool.eq_iff_iff, related_iff, inRange_iff, hlow, hhigh]
  tauto

/-- **When a range is the conjunction of its bounds.** With two bounds that are not blank, a range
and the comparisons with its bounds agree on a field value exactly if it does not escape. With one
they agree exactly if the value is not adrift from it. And nothing is adrift without a NaN in the
field value or in the bound. -/
theorem evaluate_inRange_iff (form : Form) (v low high : Value) :
    (low.isBlank = false → high.isBlank = false →
      ((∃ atLeast atMost, evaluate v (some .greaterThanOrEqual) low = .ok atLeast ∧
          evaluate v (some .lessThanOrEqual) high = .ok atMost ∧
          evaluate v (some .inRange) (.list form [low, high]) = .ok (atLeast && atMost))
        ↔ ¬ Escapes v low high)) ∧
    (low.isBlank → high.isBlank = false →
      (evaluate v (some .inRange) (.list form [low, high])
          = evaluate v (some .lessThanOrEqual) high
        ↔ ¬ v.Adrift high)) ∧
    (low.isBlank = false → high.isBlank →
      (evaluate v (some .inRange) (.list form [low, high])
          = evaluate v (some .greaterThanOrEqual) low
        ↔ ¬ v.Adrift low)) ∧
    ∀ bound, v.Adrift bound → v.HasNaN ∨ bound.HasNaN := by
  refine ⟨fun hlow hhigh => ?_, fun hlow hhigh => ?_, fun hlow hhigh => ?_,
    fun _ => Value.Adrift.hasNaN⟩
  · rw [evaluate_inRange form (.inl hlow), evaluate_relation rfl hlow, evaluate_relation rfl hhigh,
      ← inRange_eq_iff hlow hhigh]
    constructor
    · rintro ⟨atLeast, atMost, hatLeast, hatMost, hrange⟩
      cases hatLeast
      cases hatMost
      exact Except.ok.inj hrange
    · intro h
      exact ⟨_, _, rfl, rfl, congrArg Except.ok h⟩
  · rw [evaluate_inRange form (.inr hhigh), evaluate_relation rfl hhigh,
      ← inRange_eq_lessOrEqual_iff hlow hhigh]
    exact ⟨Except.ok.inj, congrArg Except.ok⟩
  · rw [evaluate_inRange form (.inl hlow), evaluate_relation rfl hlow,
      ← inRange_eq_greaterOrEqual_iff hlow hhigh]
    exact ⟨Except.ok.inj, congrArg Except.ok⟩

/-- No two integers are adrift, so five is between one and nine, and at most nine, because it is on
the right side of the bounds. -/
theorem evaluate_inRange_five :
    (∃ atLeast atMost, evaluate (.int 5) (some .greaterThanOrEqual) (.int 1) = .ok atLeast ∧
      evaluate (.int 5) (some .lessThanOrEqual) (.int 9) = .ok atMost ∧
      evaluate (.int 5) (some .inRange) (.array [.int 1, .int 9]) = .ok (atLeast && atMost)) ∧
    evaluate (.int 5) (some .inRange) (.array [.str "", .int 9])
      = evaluate (.int 5) (some .lessThanOrEqual) (.int 9) ∧
    evaluate (.int 5) (some .inRange) (.array [.int 1, .null])
      = evaluate (.int 5) (some .greaterThanOrEqual) (.int 1) := by
  have hkept : ∀ n : Int, ¬ (Value.int 5).Adrift (.int n) := by
    intro n hadrift
    rcases (evaluate_inRange_iff .plain (.int 5) .null .null).2.2.2 (.int n) hadrift with h | h
    · cases h
    · cases h
  have hinside : ¬ Escapes (.int 5) (.int 1) (.int 9) := by
    rintro (⟨hadrift, -⟩ | ⟨-, hadrift⟩)
    · exact hkept 1 hadrift
    · exact hkept 9 hadrift
  exact ⟨((evaluate_inRange_iff .plain (.int 5) (.int 1) (.int 9)).1 rfl rfl).mpr hinside,
    ((evaluate_inRange_iff .plain (.int 5) (.str "") (.int 9)).2.1 rfl rfl).mpr (hkept 9),
    ((evaluate_inRange_iff .plain (.int 5) (.int 1) .null).2.2.1 rfl rfl).mpr (hkept 1)⟩

/-- A NaN is neither at least one nor at most two, but it is in the range between them. -/
theorem not_evaluate_inRange_nan :
    ¬ ∀ v low high : Value, low.isBlank = false → high.isBlank = false →
      ∃ atLeast atMost, evaluate v (some .greaterThanOrEqual) low = .ok atLeast ∧
        evaluate v (some .lessThanOrEqual) high = .ok atMost ∧
        evaluate v (some .inRange) (.array [low, high]) = .ok (atLeast && atMost) := by
  intro h
  obtain ⟨atLeast, atMost, hatLeast, -, hrange⟩ :=
    h (.float ⟨0x7ff8000000000000⟩) (.int 1) (.int 2) rfl rfl
  have hbelow : evaluate (.float ⟨0x7ff8000000000000⟩) (some .greaterThanOrEqual) (.int 1)
      = .ok false := rfl
  have hinside : evaluate (.float ⟨0x7ff8000000000000⟩) (some .inRange)
      (.array [.int 1, .int 2]) = .ok true := rfl
  cases hbelow.symm.trans hatLeast
  cases hinside.symm.trans hrange

end Filter

end DocView
