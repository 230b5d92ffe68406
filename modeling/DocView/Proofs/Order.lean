import DocView.Sorting.Documents

/-!
# Comparisons that are total preorders

Everything that is sorted here is compared by a function into `Ordering`, and the comparisons are
built from one another: a key is read off, a coercion may fail, one comparison decides and the
next breaks its ties, a direction turns the result around. The property that has to survive all of
this is `Std.TransCmp`: turning the arguments around turns the result around, and `≤` is
transitive. It is a total preorder and nothing more, since two different values may well compare
as equal.

So each way of building a comparison has one instance or lemma below, and no comparison is ever
unfolded together with another one.

## Main results

* `transCmp_of_strictOrder` - a comparison that tests a strict order in both directions
* `transCmp_comap` - comparing by a key
* `Direction.transCmp_apply` - a comparison read in a direction
* `compareCoerced_transCmp` - comparing what may have failed to convert
-/

namespace DocView

open Std

/-- A comparison that tests a strict order in both directions is a total preorder if the order is
asymmetric and its negation is transitive. -/
theorem transCmp_of_strictOrder {α : Type} {lt : α → α → Prop} [DecidableRel lt]
    (asymm : ∀ a b, lt a b → ¬ lt b a) (negTrans : ∀ a b c, ¬ lt b a → ¬ lt c b → ¬ lt c a) :
    TransCmp fun a b => if lt a b then Ordering.lt else if lt b a then .gt else .eq where
  eq_swap {a b} := by
    by_cases hab : lt a b
    · simp [hab, asymm a b hab]
    · by_cases hba : lt b a <;> simp [hab, hba]
  isLE_trans {a b c} hab hbc := by
    have isLE_iff : ∀ x y : α,
        (if lt x y then Ordering.lt else if lt y x then .gt else .eq).isLE ↔ ¬ lt y x := by
      intro x y
      by_cases hxy : lt x y
      · simp [hxy, asymm x y hxy]
      · by_cases hyx : lt y x <;> simp [hxy, hyx]
    rw [isLE_iff] at hab hbc ⊢
    exact negTrans a b c hab hbc

/-- Comparing by a key. -/
theorem transCmp_comap {α β : Type} (cmp : α → α → Ordering) [TransCmp cmp] (key : β → α) :
    TransCmp fun a b => cmp (key a) (key b) where
  eq_swap := OrientedCmp.eq_swap
  isLE_trans := TransCmp.isLE_trans

/-- A comparison read in a direction. -/
theorem Direction.transCmp_apply {α : Type} (direction : Direction) (cmp : α → α → Ordering)
    [TransCmp cmp] : TransCmp fun a b => direction.apply (cmp a b) := by
  cases direction with
  | asc => exact inferInstanceAs (TransCmp cmp)
  | desc =>
    have hswap : (fun a b => Direction.desc.apply (cmp a b)) = fun a b => cmp b a := by
      funext a b
      exact OrientedCmp.eq_swap.symm
    rw [hswap]
    exact TransCmp.opposite

/-- One comparison decides and another one breaks its ties. -/
theorem transCmp_then {α : Type} (first second : α → α → Ordering) [TransCmp first]
    [TransCmp second] : TransCmp fun a b => (first a b).then (second a b) :=
  inferInstanceAs (TransCmp (compareLex first second))

/-- What did not convert forms one class below everything that did. -/
instance compareCoerced_transCmp {α : Type} (order : α → α → Ordering) [TransCmp order] :
    TransCmp (compareCoerced order) where
  eq_swap {a b} := by
    cases a <;> cases b
    case some.some x y =>
      show order x y = (order y x).swap
      exact OrientedCmp.eq_swap
    all_goals rfl
  isLE_trans {a b c} hab hbc := by
    cases a <;> cases b <;> cases c
    case some.some.some x y z =>
      change (order x y).isLE at hab
      change (order y z).isLE at hbc
      show (order x z).isLE
      exact TransCmp.isLE_trans hab hbc
    all_goals first | rfl | contradiction

end DocView
