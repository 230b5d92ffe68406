import DocView.Proofs.Binary64.Place

/-!
# Comparing values is a total preorder

Under every type, any two values are in order, whether or not they are of the kind that the type
expects. What makes this true is that no comparison ever looks at two values directly. Each value
is first taken to something that has a total order of its own - a place among numbers, a truth
value, a pair of texts - or to the class of values that did not convert, and only the results are
compared. So a column of mixed values cannot produce three of them that go round in a circle.

Null is handled before the type is looked at. It is one more failed conversion: `present` has no
result for it, and `compareValues` is `compareCoerced` once more.

## Main results

* `compareValues_transCmp` - the comparison as an instance, for sorting
* `compareValues_totalPreorder` - the laws, written out
-/

namespace DocView

open Std

/-! ### Texts and truth values -/

instance compareText_transCmp : TransCmp compareText :=
  transCmp_of_strictOrder (fun _ _ => String.lt_asymm)
    fun _ _ _ hba hcb => String.not_lt.mpr
      (String.le_trans (String.not_lt.mp hba) (String.not_lt.mp hcb))

instance compareBool_transCmp : TransCmp compareBool where
  eq_swap {a b} := by cases a <;> cases b <;> rfl
  isLE_trans {a b c} hab hbc := by
    cases a <;> cases b <;> cases c <;> first | rfl | contradiction

instance compareKeys_transCmp : TransCmp compareKeys :=
  have := transCmp_comap compareText (Prod.fst : String × String → String)
  have := transCmp_comap compareText (Prod.snd : String × String → String)
  transCmp_then (fun a b : String × String => compareText a.1 b.1)
    fun a b : String × String => compareText a.2 b.2

/-! ### Values under a type -/

/-- Under the type of dates, values compare by the places of their moments. -/
theorem comparePresent_date (a b : Value) :
    comparePresent .date a b
      = compareCoerced Binary64.Place.compare ((coerceDate a).map Moment.place)
          ((coerceDate b).map Moment.place) := by
  unfold comparePresent
  cases coerceDate a <;> cases coerceDate b
  case some.some m n => exact Moment.compare_millis m n
  all_goals rfl

instance comparePresent_transCmp (type : FieldType) : TransCmp (comparePresent type) := by
  cases type with
  | number => exact transCmp_comap (compareCoerced Number.compare) coerceNumber
  | date =>
    have hdate : comparePresent .date = fun a b =>
        compareCoerced Binary64.Place.compare ((coerceDate a).map Moment.place)
          ((coerceDate b).map Moment.place) := by
      funext a b
      exact comparePresent_date a b
    rw [hdate]
    exact transCmp_comap (compareCoerced Binary64.Place.compare)
      fun v => (coerceDate v).map Moment.place
  | boolean => exact transCmp_comap compareBool sortBoolean
  | string | array | null | object => exact transCmp_comap compareKeys collationKey

/-- The value itself unless it is null. -/
def present (v : Value) : Option Value := if v.isNull then none else some v

theorem compareValues_eq (type : FieldType) (a b : Value) :
    compareValues type a b = compareCoerced (comparePresent type) (present a) (present b) := by
  unfold compareValues present
  cases a.isNull <;> cases b.isNull <;> rfl

instance compareValues_transCmp (type : FieldType) : TransCmp (compareValues type) := by
  have hpresent : compareValues type = fun a b =>
      compareCoerced (comparePresent type) (present a) (present b) := by
    funext a b
    exact compareValues_eq type a b
  rw [hpresent]
  exact transCmp_comap (compareCoerced (comparePresent type)) present

/-- **Comparing values under any type is a total preorder on all values.** There are three
results, turning the arguments around turns the result around, and `≤` is transitive; nothing is
asked of the values. -/
theorem compareValues_totalPreorder (type : FieldType) :
    (∀ a b, compareValues type a b = .lt ∨ compareValues type a b = .eq
      ∨ compareValues type a b = .gt) ∧
    (∀ a b, compareValues type a b = (compareValues type b a).swap) ∧
    ∀ a b c, (compareValues type a b).isLE → (compareValues type b c).isLE →
      (compareValues type a c).isLE := by
  refine ⟨fun a b => ?_, fun a b => ?_, fun a b c hab hbc => ?_⟩
  · cases compareValues type a b <;> simp
  · exact OrientedCmp.eq_swap
  · exact TransCmp.isLE_trans hab hbc

/-- Null, a value that is no number, and a number. -/
theorem compareValues_totalPreorder_mixed :
    (compareValues .number .null (.array [])).isLE ∧
    (compareValues .number (.array []) (.int 3)).isLE ∧
    (compareValues .number .null (.int 3)).isLE := by
  have hab : (compareValues .number .null (.array [])).isLE := rfl
  have hbc : (compareValues .number (.array []) (.int 3)).isLE := rfl
  exact ⟨hab, hbc, (compareValues_totalPreorder .number).2.2 .null (.array []) (.int 3) hab hbc⟩

end DocView
