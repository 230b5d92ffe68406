import DocView.Proofs.Order

/-!
# Places of numbers

The order of numbers is the order of their places, and a NaN has none. So a comparison of doubles
is a total preorder only where no NaN can turn up, and the two ways in which a number reaches a
comparison have to rule it out. A number that was coerced is finite by construction and has its
place from the start. A moment becomes a double by division and scaling, both of which round
through `Binary64.ofRatio`; what does not fit there becomes an infinity and never a NaN, since the
exponent bits are capped before they are put together with the fraction.

## Main results

* `Binary64.Place.compare_transCmp`, `Number.compare_transCmp`
* `Binary64.isNaN_ofRatio` - rounding makes no NaN
* `Binary64.isZero_iff_place?` - zero is a place
* `Moment.compare_millis` - moments compare by the places of their milliseconds
-/

namespace DocView

open Std

namespace Binary64

/-! ### Kinds of doubles -/

variable {x : Binary64}

theorem isNaN_of_isFinite (hfinite : x.isFinite = true) : x.isNaN = false := by
  simp [isNaN, bne_iff_ne.mp hfinite]

theorem isInfinite_of_isFinite (hfinite : x.isFinite = true) : x.isInfinite = false := by
  simp [isInfinite, bne_iff_ne.mp hfinite]

theorem isInfinite_of_not_finite (hfinite : x.isFinite = false) (hnan : x.isNaN = false) :
    x.isInfinite = true := by
  unfold isFinite at hfinite
  unfold isNaN at hnan
  unfold isInfinite
  simp_all

theorem isInfinite_of_isNaN (hnan : x.isNaN = true) : x.isInfinite = false := by
  unfold isNaN at hnan
  unfold isInfinite
  simp_all

theorem place?_of_isFinite (hfinite : x.isFinite = true) : x.place? = some (.at x.units) := by
  rw [place?, isNaN_of_isFinite hfinite, isInfinite_of_isFinite hfinite]
  rfl

/-- A double is finite exactly if it has a place among the numbers. -/
theorem isFinite_iff_place? : x.isFinite ↔ ∃ n, x.place? = some (.at n) := by
  cases hfinite : x.isFinite with
  | true => exact ⟨fun _ => ⟨x.units, place?_of_isFinite hfinite⟩, fun _ => rfl⟩
  | false =>
    unfold place?
    cases hnan : x.isNaN with
    | true => simp
    | false =>
      rw [isInfinite_of_not_finite hfinite hnan]
      cases x.negative <;> simp

/-! ### The order of places -/

theorem Place.lt_asymm (p q : Place) (h : p.lt q = true) : ¬ q.lt p = true := by
  cases p <;> cases q <;> simp_all [Place.lt]
  omega

theorem Place.not_lt_trans (p q r : Place) (hqp : ¬ q.lt p = true) (hrq : ¬ r.lt q = true) :
    ¬ r.lt p = true := by
  cases p <;> cases q <;> cases r <;> simp_all [Place.lt]
  omega

instance Place.compare_transCmp : TransCmp Place.compare :=
  transCmp_of_strictOrder Place.lt_asymm Place.not_lt_trans

/-! ### Rounding makes no NaN -/

theorem isNaN_ofSignBits (negative : Bool) (bits : Nat) :
    (ofSignBits negative bits).isNaN = false := by
  have hcap : min bits infinityBits ≤ 2047 * 2 ^ 52 := Nat.min_le_right _ _
  have hbits : (ofSignBits negative bits).bits.toNat
      = (if negative then 2 ^ 63 + min bits infinityBits else min bits infinityBits) := by
    refine UInt64.toNat_ofNat_of_lt' ?_
    have hsize : UInt64.size = 2 ^ 64 := rfl
    have h63 : Nat.pow 2 63 = 2 ^ 63 := rfl
    rw [h63, hsize]
    split <;> omega
  -- With all exponent bits set the cap is reached, and there the fraction is zero.
  have hfraction : (ofSignBits negative bits).exponentField = 2047 →
      (ofSignBits negative bits).fraction = 0 := by
    have h52 : Nat.pow 2 52 = 2 ^ 52 := rfl
    have h11 : Nat.pow 2 11 = 2 ^ 11 := rfl
    simp only [exponentField, fraction, hbits, h52, h11]
    split <;> omega
  by_cases he : (ofSignBits negative bits).exponentField = 2047
  · simp [isNaN, hfraction he]
  · simp [isNaN, he]

theorem isNaN_ofRatio (negative : Bool) (num den : Nat) :
    (ofRatio negative num den).isNaN = false :=
  isNaN_ofSignBits _ _

theorem isNaN_ofDecimal (negative : Bool) (digits : Nat) (exponent : Int) :
    (ofDecimal negative digits exponent).isNaN = false := by
  unfold ofDecimal
  dsimp only
  repeat' split
  all_goals exact isNaN_ofSignBits _ _

theorem isNaN_scale (hx : x.isNaN = false) (n : Nat) :
    (x.scale n).isNaN = false := by
  unfold scale
  split
  · exact isNaN_ofRatio _ _ _
  · exact hx

theorem place?_isSome (hx : x.isNaN = false) : x.place?.isSome := by
  unfold place?
  rw [hx]
  by_cases h : x.isInfinite <;> simp [h]

/-! ### Places of integers -/

theorem unitsPerOne_pos : 0 < unitsPerOne := by
  unfold unitsPerOne
  -- The power is too large to be evaluated.
  generalize 1074 = n
  exact Nat.two_pow_pos n

theorem Place.ofInt_injective : Function.Injective Place.ofInt := by
  intro m n h
  have hunits : (unitsPerOne : Int) ≠ 0 := Int.natCast_ne_zero.mpr (Nat.ne_of_gt unitsPerOne_pos)
  exact Int.eq_of_mul_eq_mul_right hunits (Place.at.inj h)

/-- The two zeros are at one place. -/
theorem isZero_iff_place? : x.isZero ↔ x.place? = some (.ofInt 0) := by
  have hzero : Place.ofInt 0 = .at 0 := congrArg Place.at (Int.zero_mul _)
  rw [isZero, hzero]
  cases hfinite : x.isFinite with
  | true =>
    have hunits : x.units = 0 ↔ x.magnitude = 0 := by
      unfold units
      split <;> omega
    simp [place?_of_isFinite hfinite, hunits]
  | false =>
    have hplace : x.place? ≠ some (.at 0) := fun hplace =>
      Bool.false_ne_true (hfinite.symm.trans (isFinite_iff_place?.mpr ⟨0, hplace⟩))
    simp [hplace]

end Binary64

/-! ### Numbers and moments -/

instance Number.compare_transCmp : TransCmp Number.compare :=
  transCmp_comap Binary64.Place.compare Number.place

theorem Moment.isNaN_millis (m : Moment) : m.millis.isNaN = false :=
  Binary64.isNaN_scale (Binary64.isNaN_ofRatio _ _ _) 1000

/-- The place of a moment's milliseconds. -/
def Moment.place (m : Moment) : Binary64.Place :=
  m.millis.place?.get (Binary64.place?_isSome m.isNaN_millis)

/-- **Moments compare by place.** No pair of them falls into the case that `Binary64.compare` has
for a NaN. -/
theorem Moment.compare_millis (m n : Moment) :
    Binary64.compare m.millis n.millis = m.place.compare n.place := by
  have hm : m.millis.place? = some m.place := (Option.some_get _).symm
  have hn : n.millis.place? = some n.place := (Option.some_get _).symm
  simp only [Binary64.compare, hm, hn]

end DocView
