import DocView.Binary64.Shortest
import Mathlib.Tactic.Ring

/-!
# What rounds to a double

A double is read as its bits, and its bits without the sign count the doubles upward from zero: they
are the significand, plus `2 ^ 52` for each step of the shift. A rounding that finds the significand
and the shift of a double has found the double.

A ratio in the interval of a double has that double as the nearest one. There are two ways in which
it can be found. In most cases the ratio is scaled by the shift of the double and rounds to its
significand. But where the significand is the least that has its shift, the interval reaches into
the range below, in which the numbers are scaled by one shift less. There the ratio rounds up to
`2 ^ 53`, which is no significand of that range; the carry makes it the double all the same.

## Main results

* `Binary64.ofSignBits_eq_of_le` - a double from its sign, shift and significand
* `Binary64.ofRatio_eq_of_contains` - what is in the interval of a double rounds to it
-/

namespace DocView.Binary64

/-! ### Rounding a quotient -/

variable {num den m : Nat}

/-- A quotient rounds to a number that is at most half away from it; at exactly half, the number has
to be even. -/
theorem roundDiv_eq (hden : 0 < den) (hlow : 2 * (m * den) ≤ 2 * num + den)
    (hhigh : 2 * num ≤ 2 * (m * den) + den)
    (htie : m % 2 = 1 → 2 * (m * den) ≠ 2 * num + den ∧ 2 * num ≠ 2 * (m * den) + den) :
    roundDiv num den = m := by
  have hdiv : den * (num / den) + num % den = num := Nat.div_add_mod num den
  have hmod : num % den < den := Nat.mod_lt num hden
  unfold roundDiv
  generalize num / den = q at hdiv
  generalize num % den = r at hdiv hmod
  rw [Nat.mul_comm] at hdiv
  -- The quotient, cut, is the number or one less.
  have hq : q ≤ m := by
    by_contra hlt
    have hstep : (m + 1) * den ≤ q * den := Nat.mul_le_mul_right den (Nat.not_le.mp hlt)
    rw [Nat.succ_mul] at hstep
    omega
  have hm : m ≤ q + 1 := by
    by_contra hlt
    have hstep : (q + 2) * den ≤ m * den := Nat.mul_le_mul_right den (Nat.not_le.mp hlt)
    rw [Nat.add_mul] at hstep
    omega
  rcases Nat.lt_or_eq_of_le hq with hlt | rfl
  · obtain rfl : m = q + 1 := by omega
    have hsucc : (q + 1) * den = q * den + den := Nat.succ_mul q den
    rw [hsucc] at hlow hhigh htie
    dsimp only
    split_ifs <;> omega
  · dsimp only
    split_ifs <;> omega

/-! ### Sign, shift and significand -/

variable {x : Binary64}

theorem significand_lt (x : Binary64) : x.significand < 2 ^ 53 := by
  have hfraction : x.fraction < 2 ^ 52 := Nat.mod_lt _ (by decide)
  have h52 : Nat.pow 2 52 = 2 ^ 52 := rfl
  unfold significand
  split <;> omega

theorem le_significand (h : 0 < x.shift) : 2 ^ 52 ≤ x.significand := by
  have hexponent : x.exponentField ≠ 0 := by
    intro hzero
    rw [shift, hzero] at h
    omega
  rw [significand, if_neg hexponent]
  exact Nat.le_add_right _ _

theorem shift_lt (hx : x.isFinite) : x.shift < 2046 := by
  have hfield : x.exponentField < 2 ^ 11 := Nat.mod_lt _ (by decide)
  have hfinite : x.exponentField ≠ 2047 := bne_iff_ne.mp hx
  unfold shift
  omega

/-- The bits without the sign count the doubles upward. -/
theorem toNat_bits (x : Binary64) : x.bits.toNat
    = (if x.negative then 2 ^ 63 else 0) + (x.shift * 2 ^ 52 + x.significand) := by
  have hbits : x.bits.toNat < 2 ^ 64 := x.bits.toNat_lt
  have h63 : Nat.pow 2 63 = 2 ^ 63 := rfl
  have h52 : Nat.pow 2 52 = 2 ^ 52 := rfl
  have h11 : Nat.pow 2 11 = 2 ^ 11 := rfl
  simp only [negative, shift, significand, exponentField, fraction, h63, h52, h11, beq_iff_eq]
  split <;> split <;> omega

/-- A double that is no NaN is made of its sign, its shift and its significand. -/
theorem ofSignBits_eq_of_le (h : x.shift * 2 ^ 52 + x.significand ≤ infinityBits) :
    ofSignBits x.negative (x.shift * 2 ^ 52 + x.significand) = x := by
  have h63 : Nat.pow 2 63 = 2 ^ 63 := rfl
  have hbits : x.bits.toNat = if x.negative then Nat.pow 2 63
      + (x.shift * 2 ^ 52 + x.significand) else x.shift * 2 ^ 52 + x.significand := by
    rw [toNat_bits, h63]
    split <;> omega
  rw [ofSignBits, Nat.min_eq_left h, ← hbits, UInt64.ofNat_toNat]

theorem ofSignBits_eq (hx : x.isFinite) :
    ofSignBits x.negative (x.shift * 2 ^ 52 + x.significand) = x := by
  have hshift := shift_lt hx
  have hsignificand := x.significand_lt
  have hinfinity : infinityBits = 2047 * 2 ^ 52 := rfl
  exact ofSignBits_eq_of_le (by omega)

theorem infinity_eq (hx : x.isInfinite) : infinity x.negative = x := by
  obtain ⟨hfield, hfraction⟩ := Bool.and_eq_true_iff.mp hx
  have hshift : x.shift = 2046 := by rw [shift, beq_iff_eq.mp hfield]
  have hsignificand : x.significand = 2 ^ 52 := by
    rw [significand, beq_iff_eq.mp hfield, beq_iff_eq.mp hfraction]
    rfl
  have hbits : x.shift * 2 ^ 52 + x.significand = infinityBits := by
    rw [hshift, hsignificand]
    rfl
  rw [infinity, ← hbits, ofSignBits_eq_of_le hbits.le]

theorem significand_pos (hx : x.isFinite) (hzero : x.isZero = false) : 0 < x.significand := by
  refine Nat.pos_of_ne_zero fun hsignificand => ?_
  have hmagnitude : x.magnitude = 0 := by rw [magnitude, hsignificand, Nat.zero_mul]
  simp [isZero, hx, hmagnitude] at hzero

theorem ofSignBits_zero (hzero : x.isZero) : ofSignBits x.negative 0 = x := by
  obtain ⟨hx, hmagnitude⟩ := Bool.and_eq_true_iff.mp hzero
  have hsignificand : x.significand = 0 :=
    (Nat.mul_eq_zero.mp (beq_iff_eq.mp hmagnitude)).resolve_right (Nat.two_pow_pos _).ne'
  have hshift : x.shift = 0 := by
    by_contra hne
    have hle := le_significand (Nat.pos_of_ne_zero hne)
    omega
  have heq := ofSignBits_eq hx
  rwa [hsignificand, hshift] at heq

/-! ### The scale of a ratio -/

/-- A ratio is scaled so that its whole part has fifty-three digits, or by nothing if it has fewer
anyway. -/
theorem ofRatio_eq_of_scaled {k : Nat} (hden : 0 < den)
    (hlow : k = 0 ∨ 2 ^ (52 + k) * den ≤ num * unitsPerOne)
    (hhigh : num * unitsPerOne < 2 ^ (53 + k) * den)
    (hround : roundDiv (num * unitsPerOne) (den * 2 ^ k) = m) (negative : Bool) :
    ofRatio negative num den = ofSignBits negative (k * 2 ^ 52 + m) := by
  have hshift : (if num * unitsPerOne / den < Nat.pow 2 53 then 0
      else Nat.log2 (num * unitsPerOne / den) - 52) = k := by
    rw [Nat.pow_eq]
    generalize num * unitsPerOne = scaled at hlow hhigh
    have hbelow : scaled / den < 2 ^ (53 + k) := (Nat.div_lt_iff_lt_mul hden).mpr hhigh
    rcases Nat.eq_zero_or_pos k with rfl | hk
    · rw [if_pos hbelow]
    · have habove : 2 ^ (52 + k) ≤ scaled / den :=
        (Nat.le_div_iff_mul_le hden).mpr (hlow.resolve_left (Nat.ne_of_gt hk))
      have hlarge : 2 ^ 53 ≤ scaled / den :=
        (Nat.pow_le_pow_right (by decide) (by omega)).trans habove
      have hlog : Nat.log2 (scaled / den) = 52 + k := by
        refine (Nat.log2_eq_iff (by omega)).mpr ⟨habove, ?_⟩
        rwa [show 52 + k + 1 = 53 + k by omega]
      rw [if_neg (Nat.not_lt.mpr hlarge), hlog, Nat.add_sub_cancel_left]
  rw [ofRatio, hshift, Nat.pow_eq, Nat.pow_eq, hround]

/-! ### Ratios in an interval -/

/-- Whether half a step below a double is shorter than half a step above it, so that the interval
ends at a quarter of a step. -/
def IsLeast (x : Binary64) : Prop := x.significand = 2 ^ 52 ∧ 0 < x.shift

instance (x : Binary64) : Decidable x.IsLeast := instDecidableAnd

theorem interval_value_mul (x : Binary64) (den : Nat) :
    x.interval.value * den = 4 * (x.significand * (den * 2 ^ x.shift)) := by
  show 4 * x.significand * 2 ^ x.shift * den = _
  ring

theorem interval_high_mul (x : Binary64) (den : Nat) : x.interval.high * den
    = 4 * (x.significand * (den * 2 ^ x.shift)) + 2 * (den * 2 ^ x.shift) := by
  show (4 * x.significand + 2) * 2 ^ x.shift * den = _
  ring

theorem interval_low_mul (hpos : 0 < x.significand) (den : Nat) :
    x.interval.low * den + (if x.IsLeast then 1 else 2) * (den * 2 ^ x.shift)
      = 4 * (x.significand * (den * 2 ^ x.shift)) := by
  have hlow : x.interval.low
      = (if x.IsLeast then 4 * x.significand - 1 else 4 * x.significand - 2) * 2 ^ x.shift := rfl
  obtain ⟨n, hn⟩ : ∃ n, x.significand = n + 1 := ⟨x.significand - 1, by omega⟩
  rw [hlow, hn]
  split
  · rw [show 4 * (n + 1) - 1 = 4 * n + 3 by omega]
    ring
  · rw [show 4 * (n + 1) - 2 = 4 * n + 2 by omega]
    ring

theorem Interval.contains_iff {i : Interval} : i.contains num den = true
    ↔ (i.low * den ≤ num ∧ num ≤ i.high * den) ∧
      (i.closed = false → i.low * den ≠ num ∧ num ≠ i.high * den) := by
  unfold contains
  cases i.closed
  · simp only [Bool.false_eq_true, if_false, Bool.and_eq_true, decide_eq_true_eq, forall_const]
    omega
  · simp

theorem two_pow_add_mul (x : Binary64) (den n : Nat) :
    2 ^ (n + x.shift) * den = 2 ^ n * (den * 2 ^ x.shift) := by ring

/-- Scaled by the shift of the double, the ratio rounds to its significand. -/
theorem ofRatio_eq_of_same_scale (hx : x.isFinite) (hpos : 0 < x.significand) (hden : 0 < den)
    (h : x.interval.contains (4 * (num * unitsPerOne)) den)
    (hscale : x.shift = 0 ∨ 2 ^ (52 + x.shift) * den ≤ num * unitsPerOne) :
    ofRatio x.negative num den = x := by
  obtain ⟨⟨hlow, hhigh⟩, hopen⟩ := Interval.contains_iff.mp h
  have hdown := interval_low_mul hpos den
  rw [interval_high_mul] at hhigh hopen
  have hsize := x.significand_lt
  have hstep : 0 < den * 2 ^ x.shift := Nat.mul_pos hden (Nat.two_pow_pos _)
  have hround : roundDiv (num * unitsPerOne) (den * 2 ^ x.shift) = x.significand := by
    refine roundDiv_eq hstep ?_ (by omega) fun hodd => ?_
    · split at hdown <;> omega
    · have hclosed : x.interval.closed = false := by
        rw [interval, hodd]
        rfl
      have hne := hopen hclosed
      rw [if_neg fun hleast => absurd (hleast.1 ▸ hodd) (by decide)] at hdown
      omega
  have hbelow : num * unitsPerOne < 2 ^ (53 + x.shift) * den := by
    have hmax : x.significand * (den * 2 ^ x.shift) ≤ (2 ^ 53 - 1) * (den * 2 ^ x.shift) :=
      Nat.mul_le_mul_right _ (by omega)
    rw [two_pow_add_mul]
    omega
  rw [ofRatio_eq_of_scaled hden hscale hbelow hround, ofSignBits_eq hx]

/-- Scaled by one less, the ratio rounds up to `2 ^ 53`, and the significand is the least one. -/
theorem ofRatio_eq_of_smaller_scale (hx : x.isFinite) (hpos : 0 < x.significand) (hden : 0 < den)
    (h : x.interval.contains (4 * (num * unitsPerOne)) den) (hshift : x.shift ≠ 0)
    (hsmall : num * unitsPerOne < 2 ^ (52 + x.shift) * den) :
    ofRatio x.negative num den = x := by
  obtain ⟨⟨hlow, -⟩, -⟩ := Interval.contains_iff.mp h
  have hdown := interval_low_mul hpos den
  have hstep : 0 < den * 2 ^ x.shift := Nat.mul_pos hden (Nat.two_pow_pos _)
  have hsignificand := le_significand (Nat.pos_of_ne_zero hshift)
  rw [two_pow_add_mul] at hsmall
  have hleast : x.significand = 2 ^ 52 := by
    by_contra hne
    have hmore : (2 ^ 52 + 1) * (den * 2 ^ x.shift) ≤ x.significand * (den * 2 ^ x.shift) :=
      Nat.mul_le_mul_right _ (by omega)
    split at hdown <;> omega
  obtain ⟨k, hk⟩ := Nat.exists_eq_add_one_of_ne_zero hshift
  have hdouble : den * 2 ^ x.shift = 2 * (den * 2 ^ k) := by
    rw [hk]
    ring
  have hpow : ∀ n, 2 ^ (n + k) * den = 2 ^ n * (den * 2 ^ k) := fun n => by ring
  rw [if_pos ⟨hleast, Nat.pos_of_ne_zero hshift⟩, hleast, hdouble] at hdown
  rw [hdouble] at hsmall hstep
  have hround : roundDiv (num * unitsPerOne) (den * 2 ^ k) = 2 ^ 53 :=
    roundDiv_eq (by omega) (by omega) (by omega) fun hodd => absurd hodd (by decide)
  have hcarry : k * 2 ^ 52 + 2 ^ 53 = x.shift * 2 ^ 52 + x.significand := by omega
  rw [ofRatio_eq_of_scaled hden (.inr (by rw [hpow]; omega)) (by rw [hpow]; omega) hround,
    hcarry, ofSignBits_eq hx]

/-- **What is in the interval of a double rounds to it.** -/
theorem ofRatio_eq_of_contains (hx : x.isFinite) (hpos : 0 < x.significand) (hden : 0 < den)
    (h : x.interval.contains (4 * (num * unitsPerOne)) den) : ofRatio x.negative num den = x := by
  by_cases hscale : x.shift = 0 ∨ 2 ^ (52 + x.shift) * den ≤ num * unitsPerOne
  · exact ofRatio_eq_of_same_scale hx hpos hden h hscale
  · obtain ⟨hshift, hsmall⟩ := not_or.mp hscale
    exact ofRatio_eq_of_smaller_scale hx hpos hden h hshift (Nat.not_le.mp hsmall)

end DocView.Binary64
