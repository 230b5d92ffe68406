import DocView.Proofs.Binary64.Rounding

/-!
# The shortest decimal of a double

The decimal that a double is written with is looked for on finer and finer grids, and it has to be
found and to be read as the double. Both are matters of the interval of the reals that round to the
double.

That it is found is why seventeen digits suffice. With so many digits, half a step of the grid is at
most one part in `2 * 10 ^ 16` of the value. The interval leaves half a unit of the significand on
either side, or a quarter of one below a power of two, and the significand is less than `2 ^ 53` in
general and `2 ^ 52` in the other case. In both cases the interval leaves more than half a step, so
the nearer one of the two neighbours of the value on the grid lies inside.

That it is read as the double is what it means to be in the interval, up to two details. Zeros at
the end of the digits are powers of ten, and may be taken off or put on. And the reader does not
look at decimals that are larger or smaller than all doubles, as far as a rough logarithm tells; a
decimal in the interval of a finite double is far from both bounds.

## Main definitions

* `Binary64.Interval.Has` - the decimals in an interval
* `Binary64.below` - the neighbour of the value on a grid

## Main results

* `Binary64.shortest_has`
* `Binary64.ofDecimal_eq_of_has`
-/

namespace DocView.Binary64

variable {x : Binary64} {i : Interval} {d : Decimal} {e : Int} {n k : Nat}

/-! ### Decimals in an interval -/

/-- Whether a decimal is in an interval. -/
def Interval.Has (i : Interval) (d : Decimal) : Prop :=
  i.contains (d.digits * (quartersPerOne * Nat.pow 10 d.exponent.toNat))
    (Nat.pow 10 (-d.exponent).toNat) = true

theorem Interval.contains_mul {c num den : Nat} (hc : 0 < c) :
    i.contains (c * num) (c * den) = i.contains num den := by
  unfold contains
  rw [Nat.mul_left_comm i.low c, Nat.mul_left_comm i.high c]
  simp only [Nat.mul_le_mul_left_iff hc, Nat.mul_lt_mul_left hc]

/-- A zero more at the end is one power of ten less. -/
theorem Interval.has_mul_ten : i.Has ⟨n * 10, e⟩ ↔ i.Has ⟨n, e + 1⟩ := by
  unfold Has
  dsimp only
  generalize quartersPerOne = one
  rw [Nat.pow_eq, Nat.pow_eq, Nat.pow_eq, Nat.pow_eq]
  by_cases he : e < 0
  · -- Numerator and denominator have a factor of ten in common.
    obtain ⟨j, hj⟩ : ∃ j, (-e).toNat = j + 1 := ⟨(-e).toNat - 1, by omega⟩
    have hnext : (-(e + 1)).toNat = j := by omega
    have hzero : e.toNat = 0 := by omega
    have hzero' : (e + 1).toNat = 0 := by omega
    rw [hj, hnext, hzero, hzero', Nat.pow_succ, Nat.mul_comm (10 ^ j) 10,
      show n * 10 * (one * 10 ^ 0) = 10 * (n * (one * 10 ^ 0)) by ring,
      Interval.contains_mul (by decide)]
  · have hnext : (e + 1).toNat = e.toNat + 1 := by omega
    have hzero : (-e).toNat = 0 := by omega
    have hzero' : (-(e + 1)).toNat = 0 := by omega
    rw [hnext, hzero, hzero', Nat.pow_succ,
      show n * (one * (10 ^ e.toNat * 10)) = n * 10 * (one * 10 ^ e.toNat) by ring]

theorem Interval.has_mul_pow (k : Nat) : i.Has ⟨n * 10 ^ k, e⟩ ↔ i.Has ⟨n, e + k⟩ := by
  induction k generalizing e with
  | zero => simp
  | succ k ih =>
    have hexponent : e + 1 + (k : Int) = e + ((k + 1 : Nat) : Int) := by omega
    rw [Nat.pow_succ, ← Nat.mul_assoc, has_mul_ten, ih, hexponent]

/-- Zeros at the end can be taken off. -/
theorem Interval.has_trim (fuel : Nat) (d : Decimal) : i.Has (d.trim fuel) ↔ i.Has d := by
  induction fuel generalizing d with
  | zero => rfl
  | succ fuel ih =>
    rw [Decimal.trim]
    split
    next hzero =>
      obtain ⟨n, e⟩ := d
      obtain ⟨n, rfl⟩ : 10 ∣ n := Nat.dvd_of_mod_eq_zero hzero.2
      rw [ih, Nat.mul_comm, has_mul_ten]
      simp
    next => rfl

theorem trim_digits (fuel : Nat) (d : Decimal) :
    (d.trim fuel).digits ≤ d.digits ∧ (0 < d.digits → 0 < (d.trim fuel).digits) := by
  induction fuel generalizing d with
  | zero => exact ⟨le_rfl, id⟩
  | succ fuel ih =>
    rw [Decimal.trim]
    split
    next hzero =>
      obtain ⟨hle, hpos⟩ := ih ⟨d.digits / 10, d.exponent + 1⟩
      dsimp only at hle hpos
      exact ⟨by omega, fun _ => hpos (by omega)⟩
    next => exact ⟨le_rfl, id⟩

/-! ### Neighbours on a grid -/

/-- The number of whole grid steps in the value. -/
def below (i : Interval) (e : Int) : Nat :=
  i.value * Nat.pow 10 (-e).toNat / (quartersPerOne * Nat.pow 10 e.toNat)

/-- What is found on a grid is one of the two neighbours of the value, and it is in the interval. -/
theorem onGrid_has (h : onGrid i e = some d) :
    i.Has d ∧ d.exponent = e ∧ 0 < d.digits ∧ d.digits ≤ below i e + 1 := by
  have hbelow : (decide (0 < below i e) && i.contains (below i e * (quartersPerOne
        * Nat.pow 10 e.toNat)) (Nat.pow 10 (-e).toNat)) = true →
      i.Has ⟨below i e, e⟩ ∧ e = e ∧ 0 < below i e ∧ below i e ≤ below i e + 1 := by
    intro hfits
    obtain ⟨hpos, hhas⟩ := Bool.and_eq_true_iff.mp hfits
    exact ⟨hhas, rfl, of_decide_eq_true hpos, Nat.le_succ _⟩
  have habove : i.contains ((below i e + 1) * (quartersPerOne * Nat.pow 10 e.toNat))
      (Nat.pow 10 (-e).toNat) = true →
      i.Has ⟨below i e + 1, e⟩ ∧ e = e ∧ 0 < below i e + 1 ∧ below i e + 1 ≤ below i e + 1 :=
    fun hhas => ⟨hhas, rfl, Nat.succ_pos _, le_rfl⟩
  unfold onGrid at h
  dsimp only at h
  rw [← below] at h
  split at h
  next hboth =>
    obtain ⟨hlow, hhigh⟩ := Bool.and_eq_true_iff.mp hboth
    -- Of two neighbours that fit, the nearer one is taken, or the even one if both are equally near.
    split_ifs at h
    · exact Option.some.inj h ▸ hbelow hlow
    · exact Option.some.inj h ▸ habove hhigh
    · exact Option.some.inj h ▸ hbelow hlow
    · exact Option.some.inj h ▸ habove hhigh
  next =>
    split_ifs at h with hlow hhigh
    · exact Option.some.inj h ▸ hbelow hlow
    · exact Option.some.inj h ▸ habove hhigh

/-- A neighbour of the value that is in the interval is found, or the other one. -/
theorem onGrid_isSome (h : 0 < below i e ∧ i.Has ⟨below i e, e⟩ ∨ i.Has ⟨below i e + 1, e⟩) :
    (onGrid i e).isSome := by
  unfold onGrid
  dsimp only
  split
  next =>
    split_ifs <;> rfl
  next =>
  split
  next => rfl
  next hbelow =>
  split
  next => rfl
  next habove =>
    rcases h with ⟨hpos, hhas⟩ | hhas
    · exact absurd (Bool.and_eq_true_iff.mpr ⟨decide_eq_true hpos, hhas⟩) hbelow
    · exact absurd hhas habove

/-! ### Powers of two and of ten -/

theorem two_pow_le_ten_pow {a b : Nat} (n : Nat) (ha : a ≤ 13 * n) (hb : 4 * n ≤ b) :
    2 ^ a ≤ 10 ^ b := by
  calc 2 ^ a ≤ 2 ^ (13 * n) := Nat.pow_le_pow_right (by decide) ha
    _ = (2 ^ 13) ^ n := Nat.pow_mul 2 13 n
    _ ≤ (10 ^ 4) ^ n := Nat.pow_le_pow_left (by decide) n
    _ = 10 ^ (4 * n) := (Nat.pow_mul 10 4 n).symm
    _ ≤ 10 ^ b := Nat.pow_le_pow_right (by decide) hb

theorem quartersPerOne_eq : quartersPerOne = 2 ^ (1074 + 2) := by
  unfold quartersPerOne unitsPerOne
  generalize 1074 = n
  rw [Nat.pow_eq]
  ring

theorem quartersPerOne_pos : 0 < quartersPerOne := by
  unfold quartersPerOne unitsPerOne
  generalize 1074 = n
  exact Nat.mul_pos (by decide) (Nat.pow_pos (by decide))

theorem quartersPerOne_le {n : Nat} (hn : 332 ≤ n) : quartersPerOne ≤ 10 ^ n := by
  rw [quartersPerOne_eq]
  exact two_pow_le_ten_pow 83 (by decide) hn

/-! ### The place of the point -/

theorem lt_pow_length_toDigits (n : Nat) : n < 10 ^ (Nat.toDigits 10 n).length :=
  (Nat.length_toDigits_le_iff (by decide) (List.length_pos_iff.mpr Nat.toDigits_ne_nil)).mp le_rfl

theorem pow_length_toDigits_le (hn : 0 < n) : 10 ^ ((Nat.toDigits 10 n).length - 1) ≤ n := by
  by_contra hlt
  have hlength := List.length_pos_iff.mpr (Nat.toDigits_ne_nil (b := 10) (n := n))
  by_cases hone : (Nat.toDigits 10 n).length - 1 = 0
  · rw [hone] at hlt
    omega
  · have hless := (Nat.length_toDigits_le_iff (by decide) (Nat.pos_of_ne_zero hone)).mpr
      (Nat.not_le.mp hlt)
    omega

/-- A value that has so many digits before its point, on the grid that leaves it some of them: it is
between two powers of ten as a multiple of the step. -/
theorem step_bounds {value one length places j : Nat} {e : Int} (hone : 0 < one)
    (hlength : 0 < length) (hlow : 10 ^ (length - 1) ≤ value * Nat.pow 10 places / one)
    (hhigh : value * Nat.pow 10 places / one < 10 ^ length)
    (he : e = (length : Int) - places - (j + 1)) :
    one * 10 ^ e.toNat * 10 ^ j ≤ value * 10 ^ (-e).toNat ∧
      value * 10 ^ (-e).toNat < one * 10 ^ e.toNat * 10 ^ (j + 1) := by
  obtain ⟨l, rfl⟩ := Nat.exists_eq_add_one_of_ne_zero (Nat.ne_of_gt hlength)
  rw [Nat.add_sub_cancel, Nat.le_div_iff_mul_le hone, Nat.pow_eq] at hlow
  rw [Nat.div_lt_iff_lt_mul hone, Nat.pow_eq] at hhigh
  -- The same power of ten in two ways.
  have hexponent : e.toNat + j + places = l + (-e).toNat := by omega
  have hpower : 10 ^ e.toNat * 10 ^ j * 10 ^ places = 10 ^ l * 10 ^ (-e).toNat := by
    rw [← Nat.pow_add, ← Nat.pow_add, ← Nat.pow_add, hexponent]
  have hplaces : 0 < 10 ^ places := Nat.pow_pos (by decide)
  have hgrid : 0 < 10 ^ (-e).toNat := Nat.pow_pos (by decide)
  constructor
  · refine Nat.le_of_mul_le_mul_right ?_ hplaces
    calc one * 10 ^ e.toNat * 10 ^ j * 10 ^ places
        = one * (10 ^ e.toNat * 10 ^ j * 10 ^ places) := by ring
      _ = 10 ^ l * one * 10 ^ (-e).toNat := by rw [hpower]; ring
      _ ≤ value * 10 ^ places * 10 ^ (-e).toNat := Nat.mul_le_mul_right _ hlow
      _ = value * 10 ^ (-e).toNat * 10 ^ places := by ring
  · refine Nat.lt_of_mul_lt_mul_right (a := 10 ^ places) ?_
    calc value * 10 ^ (-e).toNat * 10 ^ places
        = value * 10 ^ places * 10 ^ (-e).toNat := by ring
      _ < 10 ^ (l + 1) * one * 10 ^ (-e).toNat := Nat.mul_lt_mul_of_pos_right hhigh hgrid
      _ = one * (10 ^ l * 10 ^ (-e).toNat) * 10 := by ring
      _ = one * 10 ^ e.toNat * 10 ^ (j + 1) * 10 ^ places := by rw [← hpower]; ring

theorem pointPosition_bounds {value : Nat} (hvalue : 0 < value) (j : Nat) {e : Int}
    (he : e = pointPosition value - (j + 1)) :
    quartersPerOne * 10 ^ e.toNat * 10 ^ j ≤ value * 10 ^ (-e).toNat ∧
      value * 10 ^ (-e).toNat < quartersPerOne * 10 ^ e.toNat * 10 ^ (j + 1) := by
  have hpos : ∀ n, 332 ≤ n → 0 < value * Nat.pow 10 n / quartersPerOne := fun n hn =>
    Nat.div_pos ((quartersPerOne_le hn).trans (Nat.le_mul_of_pos_left _ hvalue)) quartersPerOne_pos
  unfold pointPosition at he
  exact step_bounds quartersPerOne_pos (List.length_pos_iff.mpr Nat.toDigits_ne_nil)
    (pow_length_toDigits_le (hpos _ (by decide))) (lt_pow_length_toDigits _) he

theorem step_pos (e : Int) : 0 < quartersPerOne * 10 ^ e.toNat :=
  Nat.mul_pos quartersPerOne_pos (Nat.pow_pos (by decide))

theorem below_lt (hvalue : 0 < i.value) (he : e = pointPosition i.value - (n + 1)) :
    below i e < 10 ^ (n + 1) := by
  obtain ⟨-, hcoarse⟩ := pointPosition_bounds hvalue n he
  rw [Nat.mul_comm (quartersPerOne * _)] at hcoarse
  exact (Nat.div_lt_iff_lt_mul (step_pos e)).mpr hcoarse

/-! ### Seventeen digits -/

theorem value_pos (hpos : 0 < x.significand) : 0 < x.interval.value :=
  Nat.mul_pos (Nat.mul_pos (by decide) hpos) (Nat.two_pow_pos _)

/-- What is near the value is in the interval. -/
theorem contains_of_near {num den : Nat} (hpos : 0 < x.significand)
    (hlow : x.interval.value * den < num + (if x.IsLeast then 1 else 2) * (den * 2 ^ x.shift))
    (hhigh : num < x.interval.value * den + 2 * (den * 2 ^ x.shift)) :
    x.interval.contains num den := by
  have hdown := interval_low_mul hpos den
  rw [interval_value_mul] at hlow hhigh
  rw [Interval.contains_iff, interval_high_mul]
  omega

/-- On a grid of seventeen digits, half a step is less than what the interval leaves. -/
theorem half_lt {den step : Nat} (hden : 0 < den)
    (hfine : step * 10 ^ 16 ≤ x.interval.value * den) {n : Nat} (hn : 2 * n ≤ step) :
    n < (if x.IsLeast then 1 else 2) * (den * 2 ^ x.shift) := by
  have hstep : 0 < den * 2 ^ x.shift := Nat.mul_pos hden (Nat.two_pow_pos _)
  rw [interval_value_mul] at hfine
  split
  next hleast =>
    rw [hleast.1] at hfine
    omega
  next =>
    have hmax : x.significand * (den * 2 ^ x.shift) ≤ (2 ^ 53 - 1) * (den * 2 ^ x.shift) :=
      Nat.mul_le_mul_right _ (Nat.le_sub_one_of_lt x.significand_lt)
    omega

/-- On such a grid one of the two neighbours of the value is in the interval: the nearer one. -/
theorem neighbour_contains {den step b r : Nat} (hpos : 0 < x.significand) (hden : 0 < den)
    (hfine : step * 10 ^ 16 ≤ x.interval.value * den) (hdiv : step * b + r = x.interval.value * den)
    (hmod : r < step) : 0 < b ∧ x.interval.contains (b * step) den
      ∨ x.interval.contains ((b + 1) * step) den := by
  have hwidth : (if x.IsLeast then 1 else 2) * (den * 2 ^ x.shift) ≤ 2 * (den * 2 ^ x.shift) :=
    Nat.mul_le_mul_right _ (by split <;> decide)
  have hb : b * step = step * b := Nat.mul_comm b step
  by_cases hnear : 2 * r ≤ step
  · have hlt := half_lt hden hfine hnear
    have hstep : 0 < den * 2 ^ x.shift := Nat.mul_pos hden (Nat.two_pow_pos _)
    refine .inl ⟨?_, contains_of_near hpos (by omega) (by omega)⟩
    refine Nat.pos_of_ne_zero fun hzero => ?_
    rw [hzero, Nat.mul_zero] at hdiv
    omega
  · have hlt := half_lt (n := step - r) hden hfine (by omega)
    have hnext : (b + 1) * step = b * step + step := Nat.succ_mul b step
    exact .inr (contains_of_near hpos (by omega) (by omega))

/-- **Seventeen digits suffice.** -/
theorem onGrid_isSome_of_seventeen (hpos : 0 < x.significand)
    (he : e = pointPosition x.interval.value - ((16 : Nat) + 1)) :
    (onGrid x.interval e).isSome := by
  obtain ⟨hfine, -⟩ := pointPosition_bounds (value_pos hpos) 16 he
  exact onGrid_isSome (neighbour_contains hpos (Nat.pow_pos (by decide)) hfine
    (Nat.div_add_mod _ _) (Nat.mod_lt _ (step_pos e)))

/-- **The shortest decimal of a double is in its interval**, and it has at most seventeen digits. -/
theorem shortest_has (hpos : 0 < x.significand) :
    x.interval.Has x.shortest ∧ 0 < x.shortest.digits ∧ x.shortest.digits ≤ 10 ^ 17 := by
  have hsome : ((List.range 17).findSome? fun (n : Nat) =>
      onGrid x.interval (pointPosition x.interval.value - (n + 1))).isSome :=
    List.findSome?_isSome_iff.mpr ⟨16, by decide, onGrid_isSome_of_seventeen hpos rfl⟩
  obtain ⟨d, hd⟩ := Option.isSome_iff_exists.mp hsome
  have hshortest : x.shortest = d := by
    unfold shortest
    dsimp only
    rw [hd, Option.getD_some]
  obtain ⟨n, hn, hgrid⟩ := List.exists_of_findSome?_eq_some hd
  obtain ⟨hhas, -, hdigits, hle⟩ := onGrid_has hgrid
  have hbelow := below_lt (value_pos hpos) (rfl : pointPosition x.interval.value - (n + 1) = _)
  have hpower : 10 ^ (n + 1) ≤ 10 ^ 17 :=
    Nat.pow_le_pow_right (by decide) (Nat.succ_le_of_lt (List.mem_range.mp hn))
  rw [hshortest]
  exact ⟨hhas, hdigits, by omega⟩

/-! ### Reading a decimal -/

/-- A number of binary digits in decimal ones. -/
theorem pow_log_bounds : ∀ l < 60,
    10 ^ (l * 30103 / 100000) ≤ 2 ^ l ∧ 2 ^ (l + 1) ≤ 10 ^ (l * 30103 / 100000 + 2) := by
  decide

theorem low_pos (hpos : 0 < x.significand) : 0 < x.interval.low := by
  have hdown := interval_low_mul hpos 1
  have hwidth : (if x.IsLeast then 1 else 2) * (1 * 2 ^ x.shift) ≤ 2 * (1 * 2 ^ x.shift) :=
    Nat.mul_le_mul_right _ (by split <;> decide)
  have hone : 1 * (1 * 2 ^ x.shift) ≤ x.significand * (1 * 2 ^ x.shift) :=
    Nat.mul_le_mul_right _ hpos
  have hscale := Nat.two_pow_pos x.shift
  omega

theorem high_lt (hx : x.isFinite) (hn : 1024 ≤ n) : x.interval.high < quartersPerOne * 2 ^ n := by
  have hsignificand := x.significand_lt
  have hshift := shift_lt hx
  calc x.interval.high < 2 ^ 55 * 2 ^ x.shift :=
        Nat.mul_lt_mul_of_pos_right (by omega) (Nat.two_pow_pos _)
    _ = 2 ^ (55 + x.shift) := (Nat.pow_add 2 55 _).symm
    _ ≤ 2 ^ (1074 + 2 + n) := Nat.pow_le_pow_right (by decide) (by omega)
    _ = quartersPerOne * 2 ^ n := by rw [quartersPerOne_eq, ← Nat.pow_add]

theorem Interval.Has.bounds (h : i.Has d) :
    i.low * 10 ^ (-d.exponent).toNat ≤ d.digits * (quartersPerOne * 10 ^ d.exponent.toNat) ∧
      d.digits * (quartersPerOne * 10 ^ d.exponent.toNat) ≤ i.high * 10 ^ (-d.exponent).toNat :=
  (Interval.contains_iff.mp h).1

/-- A decimal in the interval of a finite double is not too large to be looked at. -/
theorem not_large (hx : x.isFinite) (hd : 0 < d.digits) (hdigits : d.digits < 2 ^ 60)
    (h : x.interval.Has d) :
    (Nat.log2 d.digits : Int) * 30103 / 100000 + d.exponent ≤ 320 := by
  obtain ⟨l, hl⟩ : ∃ l, l = Nat.log2 d.digits := ⟨_, rfl⟩
  have hlog : l < 60 := hl ▸ (Nat.log2_lt (Nat.ne_of_gt hd)).mpr hdigits
  have hpow : 2 ^ l ≤ d.digits := hl ▸ Nat.log2_self_le (Nat.ne_of_gt hd)
  by_contra hlarge
  rw [← hl] at hlarge
  obtain ⟨n, hn⟩ : ∃ n, n = 1024 := ⟨_, rfl⟩
  -- The power of ten that the decimal is at least, and that is larger than every double.
  obtain ⟨b, hb⟩ : ∃ b, l * 30103 / 100000 + d.exponent.toNat = b + (-d.exponent).toNat :=
    ⟨l * 30103 / 100000 + d.exponent.toNat - (-d.exponent).toNat, by omega⟩
  have hgrid : 0 < 10 ^ (-d.exponent).toNat := Nat.pow_pos (by decide)
  refine Nat.lt_irrefl (quartersPerOne * (10 ^ b * 10 ^ (-d.exponent).toNat)) ?_
  calc quartersPerOne * (10 ^ b * 10 ^ (-d.exponent).toNat)
      = 10 ^ (l * 30103 / 100000) * (quartersPerOne * 10 ^ d.exponent.toNat) := by
        rw [← Nat.pow_add, ← hb, Nat.pow_add]
        ring
    _ ≤ d.digits * (quartersPerOne * 10 ^ d.exponent.toNat) :=
        Nat.mul_le_mul_right _ ((pow_log_bounds l hlog).1.trans hpow)
    _ ≤ x.interval.high * 10 ^ (-d.exponent).toNat := h.bounds.2
    _ < quartersPerOne * 2 ^ n * 10 ^ (-d.exponent).toNat :=
        Nat.mul_lt_mul_of_pos_right (high_lt hx (by omega)) hgrid
    _ ≤ quartersPerOne * 10 ^ b * 10 ^ (-d.exponent).toNat :=
        Nat.mul_le_mul_right _ (Nat.mul_le_mul_left _ (two_pow_le_ten_pow 79 (by omega) (by omega)))
    _ = quartersPerOne * (10 ^ b * 10 ^ (-d.exponent).toNat) := Nat.mul_assoc _ _ _

/-- Nor is it too small. -/
theorem not_small (hpos : 0 < x.significand) (hd : 0 < d.digits) (hdigits : d.digits < 2 ^ 60)
    (h : x.interval.Has d) :
    -400 ≤ (Nat.log2 d.digits : Int) * 30103 / 100000 + d.exponent := by
  obtain ⟨l, hl⟩ : ∃ l, l = Nat.log2 d.digits := ⟨_, rfl⟩
  have hlog : l < 60 := hl ▸ (Nat.log2_lt (Nat.ne_of_gt hd)).mpr hdigits
  have hpow : d.digits < 2 ^ (l + 1) := hl ▸ Nat.lt_log2_self
  by_contra hsmall
  rw [← hl] at hsmall
  obtain ⟨b, hb⟩ : ∃ b, (-d.exponent).toNat = l * 30103 / 100000 + 2 + b :=
    ⟨(-d.exponent).toNat - (l * 30103 / 100000 + 2), by omega⟩
  have hzero : d.exponent.toNat = 0 := by omega
  refine Nat.lt_irrefl (10 ^ (-d.exponent).toNat) ?_
  calc 10 ^ (-d.exponent).toNat ≤ x.interval.low * 10 ^ (-d.exponent).toNat :=
        Nat.le_mul_of_pos_left _ (low_pos hpos)
    _ ≤ d.digits * (quartersPerOne * 10 ^ d.exponent.toNat) := h.bounds.1
    _ = d.digits * quartersPerOne := by rw [hzero, Nat.pow_zero, Nat.mul_one]
    _ < 10 ^ (l * 30103 / 100000 + 2) * quartersPerOne :=
        Nat.mul_lt_mul_of_pos_right (hpow.trans_le (pow_log_bounds l hlog).2) quartersPerOne_pos
    _ ≤ 10 ^ (l * 30103 / 100000 + 2) * 10 ^ b :=
        Nat.mul_le_mul_left _ (quartersPerOne_le (by omega))
    _ = 10 ^ (-d.exponent).toNat := by rw [hb, ← Nat.pow_add]

/-- **A decimal in the interval of a double is read as the double.** -/
theorem ofDecimal_eq_of_has (hx : x.isFinite) (hpos : 0 < x.significand) (hd : 0 < d.digits)
    (hdigits : d.digits < 2 ^ 60) (h : x.interval.Has d) :
    ofDecimal x.negative d.digits d.exponent = x := by
  have hlarge := not_large hx hd hdigits h
  have hsmall := not_small hpos hd hdigits h
  unfold ofDecimal
  rw [if_neg (Nat.ne_of_gt hd)]
  dsimp only
  rw [if_neg (Int.not_lt.mpr hlarge), if_neg (Int.not_lt.mpr hsmall)]
  have hnumerator : ∀ power : Nat, d.digits * (quartersPerOne * power)
      = 4 * (d.digits * power * unitsPerOne) := by
    intro power
    unfold quartersPerOne
    generalize unitsPerOne = one
    ring
  rw [Interval.Has, hnumerator] at h
  split
  next he =>
    rw [show (-d.exponent).toNat = 0 by omega] at h
    exact ofRatio_eq_of_contains hx hpos Nat.one_pos h
  next he =>
    rw [show d.exponent.toNat = 0 by omega, Nat.pow_eq, Nat.pow_zero, Nat.mul_one] at h
    exact ofRatio_eq_of_contains hx hpos (Nat.pow_pos (by decide)) h

end DocView.Binary64
