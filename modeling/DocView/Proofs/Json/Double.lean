import DocView.Proofs.Binary64.Place
import DocView.Proofs.Binary64.Shortest
import DocView.Proofs.Json.RoundTrip

/-!
# Doubles are read back

The writer has four ways to lay out the shortest decimal of a double: all digits behind the point,
the point among them, all digits before the point, or one digit before the point and an exponent.
The reader has one grammar for all of these. The *parts* of a numeral are where they meet: the
digits before the point, those behind it, and the exponent. The reader finds the parts in their text,
whatever the numeral is followed by, and makes the double that their digits and their power of ten
stand for. And each way of writing lays out parts that stand for the decimal, but for zeros at the
end, which are powers of ten. Since the decimal is in the interval of the double, so is what the
parts stand for, and it is the double that is read.

Zero, the infinities and NaN are not written by digits. All NaNs are written alike, so that one of
them comes back.

## Main definitions

* `Json.Parts`
* `Binary64.WrittenAs` - parts that stand for a decimal

## Main results

* `Json.Parts.numeral?_text` - the parts are found
* `Binary64.exists_parts_write` - a decimal is laid out in parts that stand for it
* `Json.readsDouble`
-/

namespace DocView

namespace Text

/-! ### Values of digits -/

theorem digitsValue_zeros (n : Nat) : digitsValue (Binary64.zeros n) = 0 := by
  induction n with
  | zero => rfl
  | succ n ih =>
    have hzeros : Binary64.zeros (n + 1) = ['0'] ++ Binary64.zeros n := rfl
    rw [hzeros, digitsValue_append, ih]
    simp [digitsValue, show digit? '0' = some 0 by decide]

/-- Zeros in front do not count. -/
theorem digitsValue_zeros_append (n : Nat) (ds : List Char) :
    digitsValue (Binary64.zeros n ++ ds) = digitsValue ds := by
  rw [digitsValue_append, digitsValue_zeros, Nat.zero_mul, Nat.zero_add]

/-- Zeros at the end are factors of ten. -/
theorem digitsValue_append_zeros (ds : List Char) (n : Nat) :
    digitsValue (ds ++ Binary64.zeros n) = digitsValue ds * 10 ^ n := by
  rw [digitsValue_append, digitsValue_zeros, Nat.add_zero, Binary64.zeros, List.length_replicate]

theorem signed_natAbs (e : Int) : signed (decide (e < 0)) e.natAbs = e := by
  by_cases he : e < 0
  · rw [signed, if_pos (decide_eq_true he)]
    omega
  · rw [signed, decide_eq_false he, if_neg Bool.false_ne_true]
    omega

end Text

namespace Json

variable {ds rest : List Char}

/-! ### The parts of a numeral -/

/-- The parts that a double is written in: digits before and behind the point, and the sign and the
digits of an exponent. -/
structure Parts where
  whole : List Char
  fraction : List Char
  exponent : Option (Bool × List Char)

namespace Parts

/-- The text of an exponent. -/
def exponentText : Option (Bool × List Char) → List Char
  | none => []
  | some (negative, digits) => 'e' :: (if negative then '-' else '+') :: digits

/-- The text of the parts; without a fraction there is no point. -/
def text (p : Parts) : List Char :=
  p.whole ++ ((if p.fraction.isEmpty then [] else '.' :: p.fraction) ++ exponentText p.exponent)

/-- The power of ten that an exponent stands for. -/
def power (p : Parts) : Int :=
  match p.exponent with
  | none => 0
  | some (negative, digits) => Text.signed negative (Text.digitsValue digits)

/-- Parts of digits, with no zero in front of others, of which one makes the numeral a double. -/
structure IsDouble (p : Parts) : Prop where
  whole : AreDigits p.whole
  /-- The first digit is a zero only if it is alone. -/
  leading : p.whole = ['0'] ∨ ∃ c ∈ p.whole.head?, c ≠ '0'
  fraction : AreDigits p.fraction
  exponent : ∀ e ∈ p.exponent, e.2 ≠ [] ∧ AreDigits e.2
  /-- There is a fraction or an exponent. -/
  double : p.fraction ≠ [] ∨ p.exponent.isSome

theorem text_fraction (whole : List Char) {fraction : List Char} (hne : fraction ≠ []) :
    text ⟨whole, fraction, none⟩ = whole ++ '.' :: fraction := by
  rw [text, if_neg (by simpa using hne)]
  exact congrArg (whole ++ ·) (List.append_nil _)

theorem endsDigits_exponentText (e : Option (Bool × List Char)) (hrest : EndsNumeral rest) :
    EndsDigits (exponentText e ++ rest) ∧ ∀ c ∈ (exponentText e ++ rest).head?, c ≠ '.' := by
  cases e with
  | none => exact ⟨hrest.endsDigits, fun c hc => (hrest c hc).2.1⟩
  | some e =>
    exact ⟨fun c hc => Option.some.inj hc ▸ rfl, fun c hc => Option.some.inj hc ▸ by decide⟩

theorem fractionPart?_append (hds : AreDigits ds) (hrest : EndsDigits rest)
    (hpoint : ∀ c ∈ rest.head?, c ≠ '.') :
    fractionPart? ((if ds.isEmpty then [] else '.' :: ds) ++ rest)
      = if ds.isEmpty then none else some (ds, rest) := by
  cases ds with
  | nil =>
    show fractionPart? rest = none
    unfold fractionPart?
    split
    next => exact absurd rfl (hpoint '.' rfl)
    next => rfl
  | cons d more =>
    have hspan := spanDigits_append hds hrest
    show fractionPart? ('.' :: d :: (more ++ rest)) = some (d :: more, rest)
    rw [List.cons_append] at hspan
    rw [fractionPart?, if_pos (hds d List.mem_cons_self), hspan]

theorem exponentPart?_append {e : Option (Bool × List Char)}
    (he : ∀ e' ∈ e, e'.2 ≠ [] ∧ AreDigits e'.2) (hrest : EndsNumeral rest) :
    exponentPart? (exponentText e ++ rest)
      = e.map fun e => (Text.signed e.1 (Text.digitsValue e.2), rest) := by
  cases e with
  | none => exact exponentPart?_eq_none hrest
  | some e =>
    obtain ⟨negative, digits⟩ := e
    obtain ⟨hne, hdigits⟩ := he _ rfl
    have hsign : Text.takeSign ((if negative then '-' else '+') :: (digits ++ rest))
        = (negative, digits ++ rest) := by
      cases negative <;> rfl
    have hempty : digits.isEmpty = false := List.isEmpty_eq_false_iff.mpr hne
    show exponentPart? ('e' :: (if negative then '-' else '+') :: (digits ++ rest)) = _
    rw [exponentPart?, if_pos (.inl rfl), hsign]
    simp [spanDigits_append hdigits hrest.endsDigits, hempty]

/-- **The parts of a double are found**, where the numeral ends after them. -/
theorem numeral?_text {p : Parts} (hp : p.IsDouble) (start : Nat) (negative : Bool)
    (hrest : EndsNumeral rest) : numeral? start negative (p.text ++ rest)
      = .ok (.float (Binary64.ofDecimal negative (Text.digitsValue (p.whole ++ p.fraction))
          (p.power - p.fraction.length)), rest) := by
  obtain ⟨hends, hpoint⟩ := endsDigits_exponentText p.exponent hrest
  have hfraction := fractionPart?_append hp.fraction hends hpoint
  have hexponent := exponentPart?_append hp.exponent hrest
  have hmore : EndsDigits ((if p.fraction.isEmpty then [] else '.' :: p.fraction)
      ++ (exponentText p.exponent ++ rest)) := by
    cases p.fraction with
    | nil => exact hends
    | cons d more => exact fun c hc => Option.some.inj hc ▸ rfl
  rw [text, List.append_assoc, List.append_assoc, numeral?,
    wholePart?_append hp.whole hp.leading hmore]
  simp only [hfraction]
  have hdouble := hp.double
  unfold power
  cases hexp : p.exponent with
  | none =>
    have hnone : exponentText none = [] := rfl
    have hne : p.fraction ≠ [] := hdouble.resolve_right (by simp [hexp])
    simp [hne, hnone, exponentPart?_eq_none hrest]
  | some e =>
    rw [hexp] at hexponent
    cases p.fraction <;> simp [hexponent]

end Parts

end Json

namespace Binary64

open Json (Parts AreDigits)

/-! ### The layout of a decimal -/

/-- The digits of a positive number, as they are written. -/
structure DigitsOf (n : Nat) (ds : List Char) : Prop where
  digits : AreDigits ds
  /-- The first of them is not a zero. -/
  leading : ∃ c more, ds = c :: more ∧ c ≠ '0'
  value : Text.digitsValue ds = n

theorem digitsOf_toDigits {n : Nat} (hn : 0 < n) : DigitsOf n (Nat.toDigits 10 n) where
  digits _ hc := isDigit_of_mem_toDigits hc
  leading := by
    obtain ⟨c, more, hdigits, -⟩ := exists_toDigits_eq_cons n
    refine ⟨c, more, hdigits, fun hzero => head?_toDigits_ne (Nat.ne_of_gt hn) ?_⟩
    rw [hdigits, hzero]
    rfl
  value := Text.digitsValue_toDigits n

theorem areDigits_zeros (n : Nat) : AreDigits (zeros n) := by
  intro c hc
  rw [List.eq_of_mem_replicate hc]
  rfl

section

variable {d : Decimal} {ds : List Char}

/-- What is written stands for a decimal: its digits with zeros behind them, and its power of ten
less these. -/
structure WrittenAs (d : Decimal) (p : Parts) (places : Nat) : Prop where
  double : p.IsDouble
  value : Text.digitsValue (p.whole ++ p.fraction) = d.digits * 10 ^ places
  power : p.power - p.fraction.length = d.exponent - places

/-- All digits stand behind the point, with zeros in front of them. -/
theorem writtenAs_small (hds : DigitsOf d.digits ds) (hsmall : (ds.length : Int) + d.exponent ≤ 0) :
    WrittenAs d ⟨['0'], zeros (-(ds.length + d.exponent)).toNat ++ ds, none⟩ 0 := by
  obtain ⟨c, more, hcons, -⟩ := hds.leading
  refine ⟨⟨List.forall_mem_singleton.mpr rfl, .inl rfl,
    List.forall_mem_append.mpr ⟨areDigits_zeros _, hds.digits⟩, by simp, .inl (by simp [hcons])⟩,
    ?_, ?_⟩
  · have hzeros : ['0'] ++ (zeros (-(ds.length + d.exponent)).toNat ++ ds)
        = zeros ((-(ds.length + d.exponent)).toNat + 1) ++ ds := rfl
    rw [hzeros, Text.digitsValue_zeros_append, hds.value, Nat.pow_zero, Nat.mul_one]
  · simp [Parts.power, zeros]
    omega

/-- All digits stand before the point, with zeros behind them. -/
theorem writtenAs_whole (hds : DigitsOf d.digits ds) (hwhole : 0 ≤ d.exponent) :
    WrittenAs d ⟨ds ++ zeros d.exponent.toNat, ['0'], none⟩ (d.exponent.toNat + 1) := by
  obtain ⟨c, more, hcons, hne⟩ := hds.leading
  refine ⟨⟨List.forall_mem_append.mpr ⟨hds.digits, areDigits_zeros _⟩,
    .inr ⟨c, by simp [hcons], hne⟩, List.forall_mem_singleton.mpr rfl, by simp, .inl (by simp)⟩,
    ?_, ?_⟩
  · have hzeros : ds ++ zeros d.exponent.toNat ++ ['0'] = ds ++ zeros (d.exponent.toNat + 1) := by
      rw [List.append_assoc, zeros, zeros, List.replicate_succ']
    rw [hzeros, Text.digitsValue_append_zeros, hds.value]
  · simp [Parts.power]
    omega

/-- The point stands among the digits. -/
theorem writtenAs_part (hds : DigitsOf d.digits ds) {point : Nat} (hpos : 0 < point)
    (hpoint : (point : Int) = ds.length + d.exponent) (hpart : point < ds.length) :
    WrittenAs d ⟨ds.take point, ds.drop point, none⟩ 0 := by
  obtain ⟨c, more, hcons, hne⟩ := hds.leading
  obtain ⟨n, rfl⟩ := Nat.exists_eq_add_one_of_ne_zero (Nat.ne_of_gt hpos)
  refine ⟨⟨fun c hc => hds.digits c (List.mem_of_mem_take hc), .inr ⟨c, by simp [hcons], hne⟩,
    fun c hc => hds.digits c (List.mem_of_mem_drop hc), by simp, .inl (by simpa using hpart)⟩,
    ?_, ?_⟩
  · rw [List.take_append_drop, hds.value, Nat.pow_zero, Nat.mul_one]
  · simp [Parts.power]
    omega

/-- One digit stands before the point, and an exponent tells how far that is from its place. -/
theorem writtenAs_scientific {c : Char} (hds : DigitsOf d.digits (c :: ds)) (width : Nat) {e : Int}
    (he : e = (c :: ds).length + d.exponent - 1) :
    WrittenAs d ⟨[c], ds, some (decide (e < 0), zeros (width - (Nat.toDigits 10 e.natAbs).length)
      ++ Nat.toDigits 10 e.natAbs)⟩ 0 := by
  obtain ⟨_, _, hcons, hne⟩ := hds.leading
  obtain ⟨rfl, rfl⟩ := List.cons.inj hcons
  obtain ⟨hc, hdigits⟩ := List.forall_mem_cons.mp hds.digits
  refine ⟨⟨List.forall_mem_singleton.mpr hc, .inr ⟨c, rfl, hne⟩, hdigits, ?_, .inr rfl⟩, ?_, ?_⟩
  · intro e' he'
    obtain rfl := Option.some.inj he'
    exact ⟨by simp [Nat.toDigits_ne_nil], List.forall_mem_append.mpr ⟨areDigits_zeros _,
      fun _ => isDigit_of_mem_toDigits⟩⟩
  · rw [List.singleton_append, hds.value, Nat.pow_zero, Nat.mul_one]
  · show Text.signed (decide (e < 0)) (Text.digitsValue (zeros _ ++ Nat.toDigits 10 e.natAbs))
      - (ds.length : Int) = d.exponent - (0 : Nat)
    rw [Text.digitsValue_zeros_append, Text.digitsValue_toDigits, Text.signed_natAbs, he,
      List.length_cons]
    omega

end

/-- **A decimal is laid out in the parts of a double.** -/
theorem exists_parts_write (layout : Layout) {d : Decimal} (hd : 0 < d.digits) :
    ∃ (p : Parts) (places : Nat), layout.write d = p.text ∧ WrittenAs d p places ∧
      (places = 0 ∨ d.digits * 10 ^ places ≤ 10 ^ (layout.limit.toNat + 1)) := by
  have hds := digitsOf_toDigits hd
  have hbound := lt_pow_length_toDigits d.digits
  unfold Layout.write
  dsimp only
  generalize Nat.toDigits 10 d.digits = ds at hds hbound
  obtain ⟨c, more, hcons, -⟩ := hds.leading
  split
  next hpositional =>
    split
    next hsmall =>
      have hne : zeros (-(ds.length + d.exponent)).toNat ++ ds ≠ [] := by simp [hcons]
      have htext := Parts.text_fraction ['0'] hne
      exact ⟨_, 0, htext.symm, writtenAs_small hds hsmall, .inl rfl⟩
    next hlarge =>
      split
      next hwhole =>
        have hzeros : (ds.length + d.exponent).toNat - ds.length = d.exponent.toNat := by omega
        refine ⟨_, _, ?_, writtenAs_whole hds (by omega), .inr ?_⟩
        · rw [hzeros, Parts.text_fraction _ (by simp)]
        · calc d.digits * 10 ^ (d.exponent.toNat + 1)
              ≤ 10 ^ ds.length * 10 ^ (d.exponent.toNat + 1) := Nat.mul_le_mul_right _ hbound.le
            _ = 10 ^ (ds.length + (d.exponent.toNat + 1)) := (Nat.pow_add 10 _ _).symm
            _ ≤ 10 ^ (layout.limit.toNat + 1) := Nat.pow_le_pow_right (by decide) (by omega)
      next hpart =>
        have hpoint : (ds.length + d.exponent).toNat < ds.length := Nat.not_le.mp hpart
        refine ⟨_, 0, ?_, writtenAs_part hds (by omega) (Int.toNat_of_nonneg (by omega)) hpoint,
          .inl rfl⟩
        exact (Parts.text_fraction _ (by simpa using hpoint)).symm
  next hscientific =>
    subst hcons
    refine ⟨_, 0, ?_, writtenAs_scientific hds layout.exponentWidth rfl, .inl rfl⟩
    cases more with
    | nil => simp [Parts.text, Parts.exponentText]
    | cons a rest => simp [Parts.text, Parts.exponentText]

end Binary64

namespace Json

open Binary64 (Decimal)

/-! ### Doubles -/

variable {x : Binary64}

theorem Parts.exists_text_eq_cons {p : Parts} (hp : p.IsDouble) :
    ∃ c more, p.text = c :: more ∧ c.isDigit = true := by
  have hne : p.whole ≠ [] := by
    rintro hnil
    have hlead := hp.leading
    simp [hnil] at hlead
  obtain ⟨c, more, hcons⟩ := List.exists_cons_of_ne_nil hne
  exact ⟨c, _, by rw [Parts.text, hcons, List.cons_append], hp.whole c (by simp [hcons])⟩

/-- A sign and the parts of a double are read as the double that they stand for. -/
theorem scalar?_text {p : Parts} (hp : p.IsDouble) (negative : Bool) (hrest : EndsNumeral rest) :
    scalar? ((if negative then "-" else "").toList ++ p.text ++ rest)
      = .ok (.float (Binary64.ofDecimal negative (Text.digitsValue (p.whole ++ p.fraction))
          (p.power - p.fraction.length)), rest) := by
  have hread := fun start => Parts.numeral?_text hp start negative hrest
  obtain ⟨c, more, htext, hc⟩ := Parts.exists_text_eq_cons hp
  rw [htext] at hread ⊢
  cases negative with
  | true => exact (scalar?_minus_digit hc).trans (hread _)
  | false => exact (scalar?_digit hc).trans (hread _)

/-- What is written as a decimal in the interval of a double is read as the double. -/
theorem ofDecimal_of_writtenAs {d : Decimal} {p : Parts} {places : Nat} (hx : x.isFinite)
    (hpos : 0 < x.significand) (hd : 0 < d.digits) (hwritten : Binary64.WrittenAs d p places)
    (hdigits : d.digits * 10 ^ places < 2 ^ 60) (hhas : x.interval.Has d) :
    Binary64.ofDecimal x.negative (Text.digitsValue (p.whole ++ p.fraction))
      (p.power - p.fraction.length) = x := by
  rw [hwritten.value, hwritten.power]
  refine Binary64.ofDecimal_eq_of_has (d := ⟨d.digits * 10 ^ places, d.exponent - places⟩) hx hpos
    (Nat.mul_pos hd (Nat.pow_pos (by decide))) hdigits ?_
  rw [Binary64.Interval.has_mul_pow, Int.sub_add_cancel]
  exact hhas

theorem toList_floatText (hx : x.isFinite) :
    (floatText x).toList = (if x.negative then "-" else "").toList
      ++ (if x.isZero then ['0', '.', '0']
        else Binary64.documentLayout.write (x.shortest.trim 17)) := by
  rw [floatText, Binary64.text, Binary64.isNaN_of_isFinite hx, Binary64.isInfinite_of_isFinite hx]
  simp only [Bool.false_eq_true, if_false]
  split
  · exact String.toList_append
  · rw [String.toList_append, String.toList_ofList]

/-- **A finite double is read back.** -/
theorem readsDouble_of_isFinite (hx : x.isFinite) : ReadsDouble x := by
  intro rest hrest
  rw [toList_floatText hx]
  cases hzero : x.isZero with
  | true =>
    have hparts : Parts.IsDouble ⟨['0'], ['0'], none⟩ :=
      ⟨List.forall_mem_singleton.mpr rfl, .inl rfl, List.forall_mem_singleton.mpr rfl, by simp,
        .inl (by simp)⟩
    have hvalue : Text.digitsValue (['0'] ++ ['0']) = 0 := by decide
    have hread := scalar?_text hparts x.negative hrest
    rw [hvalue, Binary64.ofDecimal, if_pos rfl, Binary64.ofSignBits_zero hzero] at hread
    exact hread
  | false =>
    have hpos := Binary64.significand_pos hx hzero
    obtain ⟨hhas, hdigits, hmost⟩ := Binary64.shortest_has hpos
    obtain ⟨hle, htrimmed⟩ := Binary64.trim_digits 17 x.shortest
    obtain ⟨p, places, hwrite, hwritten, hplaces⟩ :=
      Binary64.exists_parts_write Binary64.documentLayout (htrimmed hdigits)
    have hbound : (x.shortest.trim 17).digits * 10 ^ places < 2 ^ 60 := by
      have hmax : 10 ^ 17 < 2 ^ 60 := by decide
      rcases hplaces with rfl | hplaces
      · rw [Nat.pow_zero, Nat.mul_one]
        omega
      · exact hplaces.trans_lt hmax
    rw [if_neg Bool.false_ne_true, hwrite, scalar?_text hwritten.double x.negative hrest,
      ofDecimal_of_writtenAs hx hpos (htrimmed hdigits) hwritten hbound
        ((Binary64.Interval.has_trim 17 _).mpr hhas)]

/-- **Every double is read back**, but of the NaNs only the one that is read. -/
theorem readsDouble (hx : x.isNaN = false ∨ x = .nan) : ReadsDouble x := by
  cases hfinite : x.isFinite with
  | true => exact readsDouble_of_isFinite hfinite
  | false =>
    intro rest hrest
    rcases hx with hnan | rfl
    · have hinfinite := Binary64.isInfinite_of_not_finite hfinite hnan
      have heq := Binary64.infinity_eq hinfinite
      rw [floatText, hnan, hinfinite]
      cases hnegative : x.negative with
      | true =>
        rw [hnegative] at heq
        show scalar? ("-Infinity".toList ++ rest) = _
        rw [← heq]
        rfl
      | false =>
        rw [hnegative] at heq
        show scalar? ("Infinity".toList ++ rest) = _
        rw [← heq]
        rfl
    · rfl

end Json

end DocView
