import DocView.Json.Reader
import DocView.Json.Writer
import Mathlib.Data.List.Basic
import Mathlib.Tactic.Ring

/-!
# Integers are read back

An integer is written as its digits, with a minus sign in front if it is negative. What is read is
a longer thing than an integer: a numeral goes on for as long as it can, through a fraction and an
exponent, and it is a double if it has either. So an integer is read back only where what follows
it cannot go on with the numeral, and that depends on the first character alone.

The reader knows the digits of every script, the writer writes those of ASCII only.

## Main definitions

* `Json.EndsNumeral` - texts that do not go on with a numeral

## Main results

* `Text.digitsValue_toDigits` - digits are read as the number they are of
* `Json.scalar?_intText` - an integer is read back
-/

namespace DocView

/-! ### Digits -/

namespace Text

theorem digit?_digitChar : ∀ d < 10, digit? (Nat.digitChar d) = some d := by decide

/-- **Digits are read as the number they are of.** -/
theorem digitsValue_toDigits (n : Nat) : digitsValue (Nat.toDigits 10 n) = n := by
  induction n using Nat.strongRecOn with
  | ind n ih =>
    by_cases hn : n < 10
    · rw [Nat.toDigits_of_lt_base hn]
      simp [digitsValue, digit?_digitChar n hn]
    · have hlast := digit?_digitChar (n % 10) (Nat.mod_lt n (by decide))
      have hfront := ih (n / 10) (by omega)
      rw [Nat.toDigits_of_base_le (by decide) (Nat.not_lt.mp hn), digitsValue, List.foldl_append]
      rw [digitsValue] at hfront
      rw [hfront, List.foldl_cons, List.foldl_nil, hlast]
      exact Nat.div_add_mod n 10

theorem foldl_digits (n : Nat) (cs : List Char) :
    cs.foldl (fun n c => 10 * n + (digit? c).getD 0) n = n * 10 ^ cs.length + digitsValue cs := by
  induction cs generalizing n with
  | nil => simp [digitsValue]
  | cons c cs ih =>
    rw [digitsValue, List.foldl_cons, List.foldl_cons, ih, ih, List.length_cons, Nat.pow_succ]
    ring

theorem digitsValue_append (cs ds : List Char) :
    digitsValue (cs ++ ds) = digitsValue cs * 10 ^ ds.length + digitsValue ds := by
  rw [digitsValue, List.foldl_append, foldl_digits]
  rfl

theorem digit?_lt {c : Char} : (digit? c).getD 0 < 10 := by
  unfold digit?
  cases hfind : zeroDigits.find? fun first => first ≤ c.toNat && c.toNat < first + 10 with
  | none => exact Nat.succ_pos 9
  | some first =>
    have hrange := List.find?_some hfind
    simp only [Bool.and_eq_true, decide_eq_true_eq] at hrange
    simp only [Option.map_some, Option.getD_some]
    omega

/-- So many digits make a number below that power of ten. -/
theorem digitsValue_lt (cs : List Char) : digitsValue cs < 10 ^ cs.length := by
  induction cs with
  | nil => decide
  | cons c cs ih =>
    have hc : (digit? c).getD 0 < 10 := digit?_lt
    have hvalue : digitsValue (c :: cs) = (digit? c).getD 0 * 10 ^ cs.length + digitsValue cs := by
      rw [digitsValue, List.foldl_cons, foldl_digits, Nat.mul_zero, Nat.zero_add]
    have hfirst := Nat.mul_le_mul_right (10 ^ cs.length) (Nat.le_of_lt_succ hc)
    rw [hvalue, List.length_cons, Nat.pow_succ]
    omega

end Text

theorem isDigit_of_mem_toDigits {n : Nat} {c : Char} (hc : c ∈ Nat.toDigits 10 n) :
    c.isDigit = true :=
  Nat.isDigit_of_mem_toDigits (by decide) (by decide) hc

theorem exists_toDigits_eq_cons (n : Nat) :
    ∃ d ds, Nat.toDigits 10 n = d :: ds ∧ d.isDigit = true := by
  obtain ⟨d, ds, hdigits⟩ := List.exists_cons_of_ne_nil (Nat.toDigits_ne_nil (b := 10) (n := n))
  exact ⟨d, ds, hdigits, isDigit_of_mem_toDigits (hdigits ▸ List.mem_cons_self)⟩

/-- Only the number zero starts with a zero. -/
theorem head?_toDigits_ne {n : Nat} (hn : n ≠ 0) : (Nat.toDigits 10 n).head? ≠ some '0' := by
  induction n using Nat.strongRecOn with
  | ind n ih =>
    by_cases hsmall : n < 10
    · have hall : ∀ d < 10, d ≠ 0 → [Nat.digitChar d].head? ≠ some '0' := by decide
      rw [Nat.toDigits_of_lt_base hsmall]
      exact hall n hsmall hn
    · obtain ⟨d, ds, hdigits, -⟩ := exists_toDigits_eq_cons (n / 10)
      have hfront := ih (n / 10) (by omega) (by omega)
      rw [Nat.toDigits_of_base_le (by decide) (Nat.not_lt.mp hsmall)]
      rw [hdigits] at hfront ⊢
      exact hfront

theorem toList_intText (n : Int) :
    (intText n).toList = (if n < 0 then ['-'] else []) ++ Nat.toDigits 10 n.natAbs := by
  have hdigits : (toString n.natAbs).toList = Nat.toDigits 10 n.natAbs := by
    rw [Nat.toString_eq_ofList_toDigits, String.toList_ofList]
  unfold intText
  split
  · rw [String.toList_append, hdigits]
    rfl
  · rw [hdigits, List.nil_append]

namespace Json

/-! ### Where a numeral ends -/

/-- A text whose first character, if it has one, does not go on with a numeral. -/
def EndsNumeral (rest : List Char) : Prop :=
  ∀ c ∈ rest.head?, c.isDigit = false ∧ c ≠ '.' ∧ c ≠ 'e' ∧ c ≠ 'E'

/-- A text of digits. -/
def AreDigits (cs : List Char) : Prop := ∀ c ∈ cs, c.isDigit = true

/-- A text that does not go on with a digit. -/
def EndsDigits (rest : List Char) : Prop := ∀ c ∈ rest.head?, c.isDigit = false

section

variable {ds rest : List Char}

theorem EndsNumeral.endsDigits (h : EndsNumeral rest) : EndsDigits rest := fun c hc => (h c hc).1

theorem spanDigits_append (hds : AreDigits ds) (hrest : EndsDigits rest) :
    spanDigits (ds ++ rest) = (ds, rest) := by
  rw [spanDigits, List.takeWhile_append_of_pos hds, List.dropWhile_append_of_pos hds]
  cases rest with
  | nil => simp
  | cons c more => simp [hrest c rfl]

/-- Digits are the whole part of a numeral, if no zero stands in front of others. -/
theorem wholePart?_append (hds : AreDigits ds) (hlead : ds = ['0'] ∨ ∃ c ∈ ds.head?, c ≠ '0')
    (hrest : EndsDigits rest) : wholePart? (ds ++ rest) = some (ds, rest) := by
  rcases hlead with rfl | ⟨c, hc, hne⟩
  · rfl
  · have hspan := spanDigits_append hds hrest
    cases ds with
    | nil => cases hc
    | cons d more =>
      obtain rfl : d = c := Option.some.inj hc
      rw [List.cons_append] at hspan ⊢
      rw [wholePart?, if_pos (hds d List.mem_cons_self), hspan]
      exact hne

theorem fractionPart?_eq_none (hrest : EndsNumeral rest) : fractionPart? rest = none := by
  unfold fractionPart?
  split
  next => exact absurd rfl (hrest '.' rfl).2.1
  next => rfl

theorem exponentPart?_eq_none (hrest : EndsNumeral rest) : exponentPart? rest = none := by
  cases rest with
  | nil => rfl
  | cons c more =>
    obtain ⟨-, -, he, hE⟩ := hrest c rfl
    simp [exponentPart?, he, hE]

theorem areDigits_toDigits (n : Nat) : AreDigits (Nat.toDigits 10 n) :=
  fun _ => isDigit_of_mem_toDigits

theorem wholePart?_toDigits (n : Nat) (hrest : EndsDigits rest) :
    wholePart? (Nat.toDigits 10 n ++ rest) = some (Nat.toDigits 10 n, rest) := by
  refine wholePart?_append (areDigits_toDigits n) ?_ hrest
  by_cases hn : n = 0
  · exact .inl (hn ▸ Nat.toDigits_zero 10)
  · obtain ⟨d, ds, hdigits, -⟩ := exists_toDigits_eq_cons n
    refine .inr ⟨d, by simp [hdigits], fun hzero => head?_toDigits_ne hn ?_⟩
    rw [hdigits, hzero]
    rfl

/-! ### Integers -/

theorem numeral?_toDigits {n : Nat} (hn : (Nat.toDigits 10 n).length ≤ Text.maxDigits)
    (start : Nat) (negative : Bool) (hrest : EndsNumeral rest) :
    numeral? start negative (Nat.toDigits 10 n ++ rest)
      = .ok (.int (Text.signed negative n), rest) := by
  have hwhole : Text.integerOfDigits negative (Nat.toDigits 10 n)
      = .ok (Text.signed negative n) := by
    rw [Text.integerOfDigits, if_neg (Nat.not_lt.mpr hn), Text.digitsValue_toDigits]
  simp [numeral?, wholePart?_toDigits n hrest.endsDigits, fractionPart?_eq_none hrest,
    exponentPart?_eq_none hrest, hwhole]

theorem scalar?_digit {d : Char} {ds : List Char} (hd : d.isDigit = true) :
    scalar? (d :: ds) = numeral? (d :: ds).length false (d :: ds) := by
  unfold scalar?
  split
  case h_8 => rfl
  all_goals
    next heq =>
      obtain ⟨rfl, -⟩ := List.cons.inj heq
      exact absurd hd (by decide)

theorem scalar?_minus_digit {d : Char} {ds : List Char} (hd : d.isDigit = true) :
    scalar? ('-' :: d :: ds) = numeral? ('-' :: d :: ds).length true (d :: ds) := by
  unfold scalar?
  split
  case h_7 heq =>
    obtain ⟨-, rfl⟩ := List.cons.inj heq
    rfl
  case h_6 heq =>
    obtain ⟨-, heq⟩ := List.cons.inj heq
    obtain ⟨rfl, -⟩ := List.cons.inj heq
    exact absurd hd (by decide)
  case h_8 hminus => exact absurd rfl (hminus (d :: ds))
  all_goals
    next heq => exact absurd (List.cons.inj heq).1 (by decide)

/-- **An integer is read back** unless it has too many digits, where the numeral ends after it. -/
theorem scalar?_intText {n : Int} (hn : isTooLong n = false) (hrest : EndsNumeral rest) :
    scalar? ((intText n).toList ++ rest) = .ok (.int n, rest) := by
  have hlength : (Nat.toDigits 10 n.natAbs).length ≤ Text.maxDigits := by
    simpa [isTooLong] using hn
  obtain ⟨d, ds, hdigits, hd⟩ := exists_toDigits_eq_cons n.natAbs
  have hnumeral := fun start negative => numeral?_toDigits hlength start negative hrest
  rw [hdigits, List.cons_append] at hnumeral
  rw [toList_intText, hdigits]
  by_cases hneg : n < 0
  · have hsigned : Text.signed true n.natAbs = n := by
      simp only [Text.signed, if_true]
      omega
    rw [if_pos hneg]
    show scalar? ('-' :: d :: (ds ++ rest)) = _
    rw [scalar?_minus_digit hd, hnumeral, hsigned]
  · have hsigned : Text.signed false n.natAbs = n := by
      simp only [Text.signed, Bool.false_eq_true, if_false]
      omega
    rw [if_neg hneg]
    show scalar? (d :: (ds ++ rest)) = _
    rw [scalar?_digit hd, hnumeral, hsigned]

/-- An integer starts with a minus sign or a digit. -/
theorem exists_intText_eq_cons (n : Int) :
    ∃ c cs, (intText n).toList = c :: cs ∧ (c = '-' ∨ c.isDigit = true) := by
  obtain ⟨d, ds, hdigits, hd⟩ := exists_toDigits_eq_cons n.natAbs
  rw [toList_intText, hdigits]
  split
  · exact ⟨'-', d :: ds, rfl, .inl rfl⟩
  · exact ⟨d, ds, rfl, .inr hd⟩

end

end Json

end DocView
