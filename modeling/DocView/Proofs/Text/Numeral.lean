import DocView.Proofs.Text.Split
import DocView.Text.Numeral

/-!
# Texts that are numerals, and texts that are none

A text of nothing but decimal digits of ASCII is read as the integer that it denotes, zeros in front
included, unless it has more digits than an integer text may have: the zeros count, too.

An integer may also be read off the start of a text, behind blanks and a sign. Then its digits are
all there are in a row, and what follows them does not matter.

A text that starts with digits and a hyphen is as a whole no number of any kind. An integer goes on
with digits alone; a decimal may go on with a point or an exponent, but it has to end after these.

## Main definitions

* `Text.IsNumeral`, `Text.numeralValue` - the numerals and what they denote
* `Text.StartsWithInteger`

## Main results

* `Text.integer?_of_isNumeral`
* `Text.leadingInteger?_eq_some_iff` - the integer that a text starts with
* `Text.integer?_of_hyphen`, `Text.decimal?_of_hyphen`
-/

namespace DocView.Text

variable {c : Char} {cs ds rest : List Char} {s : String}

/-! ### Digits -/

/-- The digits of ASCII are digits, and their values are the distances from zero. -/
theorem digit?_of_isDigit (hc : c.isDigit = true) : digit? c = some (c.toNat - '0'.toNat) := by
  obtain ⟨hlow, hhigh⟩ := Char.isDigit_iff_toNat.mp hc
  have hlow : 0x30 ≤ c.toNat := hlow
  have hhigh : c.toNat < 0x30 + 10 := Nat.lt_succ_of_le hhigh
  have hzeros : zeroDigits = 0x30 :: zeroDigits.tail := rfl
  rw [digit?, hzeros, List.find?_cons_of_pos (by simp [hlow, hhigh])]
  rfl

theorem isDigit_of_isDigit (hc : c.isDigit = true) : isDigit c = true := by
  rw [isDigit, digit?_of_isDigit hc]
  rfl

/-- A digit of any script is no blank. -/
theorem isBlank_of_digit (hc : isDigit c = true) : isBlank c = false := by
  -- The blanks all lie between the digits of ASCII and these scripts, or between two scripts.
  have hgaps : ∀ first ∈ zeroDigits, first = 0x30 ∨ 0x660 ≤ first ∧
      (first + 10 ≤ 0x1680 ∨ 0x1680 < first) ∧ (first + 10 ≤ 0x2000 ∨ 0x205F < first) ∧
      (first + 10 ≤ 0x3000 ∨ 0x3000 < first) := by decide
  obtain ⟨value, hvalue⟩ := Option.isSome_iff_exists.mp hc
  obtain ⟨first, hfirst, -⟩ := Option.map_eq_some_iff.mp hvalue
  have hrange := List.find?_some hfirst
  have hgap := hgaps first (List.mem_of_find?_eq_some hfirst)
  simp only [Bool.and_eq_true, decide_eq_true_eq] at hrange
  rw [Bool.eq_false_iff, isBlank]
  simp only [ne_eq, Bool.or_eq_true, Bool.and_eq_true, decide_eq_true_eq, beq_iff_eq]
  omega

theorem isPadding_of_isDigit (hc : c.isDigit = true) : isPadding c = false := by
  rw [isPadding, isBlank_of_digit (isDigit_of_isDigit hc), Bool.false_and]

/-- A text that starts with a digit has no sign. -/
theorem takeSign_of_isDigit (hc : isDigit c = true) (rest : List Char) :
    takeSign (c :: rest) = (false, c :: rest) := by
  unfold takeSign
  split
  next heq =>
    obtain ⟨rfl, -⟩ := List.cons.inj heq
    exact absurd hc (by decide)
  next heq =>
    obtain ⟨rfl, -⟩ := List.cons.inj heq
    exact absurd hc (by decide)
  next => rfl

/-- Digits without underscores between them are all there is. -/
theorem groupedDigits?_of_forall (hds : ∀ d ∈ ds, isDigit d = true) (hne : ds ≠ []) (after : Bool) :
    groupedDigits? after ds = some ds := by
  induction ds generalizing after with
  | nil => exact absurd rfl hne
  | cons d more ih =>
    obtain ⟨hd, hmore⟩ := List.forall_mem_cons.mp hds
    have hunderscore : d ≠ '_' := by
      rintro rfl
      exact absurd hd (by decide)
    rw [groupedDigits?, if_neg hunderscore, if_pos hd]
    cases more with
    | nil => rfl
    | cons e rest => rw [ih hmore (List.cons_ne_nil e rest)]; rfl

/-! ### Numerals -/

/-- One or more decimal digits of ASCII. -/
structure IsNumeral (s : String) : Prop where
  /-- It has a character. -/
  ne_nil : s.toList ≠ []
  /-- All its characters are digits. -/
  digits : ∀ c ∈ s.toList, c.isDigit = true

instance : DecidablePred IsNumeral := fun s =>
  decidable_of_iff (s.toList ≠ [] ∧ s.toList.all Char.isDigit = true)
    ⟨fun h => ⟨h.1, List.all_eq_true.mp h.2⟩, fun h => ⟨h.ne_nil, List.all_eq_true.mpr h.digits⟩⟩

/-- The number that a numeral denotes, the most significant digit first. -/
def numeralValue (s : String) : Nat :=
  s.toList.foldl (fun n c => 10 * n + (c.toNat - '0'.toNat)) 0

theorem digitsValue_of_isNumeral (h : IsNumeral s) : digitsValue s.toList = numeralValue s := by
  refine List.foldl_ext _ _ 0 fun n c hc => ?_
  rw [digit?_of_isDigit (h.digits c hc), Option.getD_some]

/-- **A numeral is read as the integer that it denotes**, unless it is too long. -/
theorem integer?_of_isNumeral (h : IsNumeral s) :
    integer? s = if maxDigits < s.length then .error (.tooManyDigits s.length)
      else .ok (numeralValue s : Int) := by
  have hpadding : ∀ c ∈ s.toList, isPadding c = false := fun c hc =>
    isPadding_of_isDigit (h.digits c hc)
  have hdigits : ∀ c ∈ s.toList, isDigit c = true := fun c hc => isDigit_of_isDigit (h.digits c hc)
  have hsign : takeSign (stripBy isPadding s.toList) = (false, s.toList) := by
    rw [stripBy_eq_self_of_forall hpadding]
    obtain ⟨c, rest, hcons⟩ := List.exists_cons_of_ne_nil h.ne_nil
    rw [hcons] at hdigits ⊢
    exact takeSign_of_isDigit (hdigits c List.mem_cons_self) rest
  simp only [integer?, hsign, groupedDigits?_of_forall hdigits h.ne_nil, integerOfDigits,
    digitsValue_of_isNumeral h, String.length_toList, signed, Bool.false_eq_true, if_false]

/-! ### Texts that start with an integer -/

/-- The signs that an integer may have. -/
def signs : List (List Char) := [[], ['+'], ['-']]

/-- The text starts with an integer of this sign and these digits, after any blanks. What follows is
no digit and may be anything else. -/
structure StartsWithInteger (s : String) (negative : Bool) (digits : List Char) : Prop where
  parts : ∃ blanks sign rest, s.toList = blanks ++ (sign ++ (digits ++ rest)) ∧
    (∀ c ∈ blanks, isBlank c = true) ∧ sign ∈ signs ∧ negative = (sign == ['-']) ∧
    ∀ c ∈ rest.head?, isDigit c = false
  areDigits : ∀ d ∈ digits, isDigit d = true
  ne_nil : digits ≠ []

theorem takeSign_eq (cs : List Char) : ∃ sign ∈ signs, cs = sign ++ (takeSign cs).2 ∧
    (takeSign cs).1 = (sign == ['-']) := by
  unfold takeSign
  split
  · exact ⟨['-'], by decide, rfl, rfl⟩
  · exact ⟨['+'], by decide, rfl, rfl⟩
  · exact ⟨[], by decide, rfl, rfl⟩

theorem takeSign_append {sign : List Char} (hsign : sign ∈ signs) (hc : isDigit c = true)
    (rest : List Char) : takeSign (sign ++ c :: rest) = (sign == ['-'], c :: rest) := by
  simp only [signs, List.mem_cons, List.not_mem_nil, or_false] at hsign
  rcases hsign with rfl | rfl | rfl
  · exact takeSign_of_isDigit hc rest
  · rfl
  · rfl

/-- What is read starts the text. -/
theorem startsWithInteger_of_leadingInteger? {r : Except IntegerFault Int}
    (h : leadingInteger? s = some r) : ∃ negative digits, StartsWithInteger s negative digits ∧
      r = integerOfDigits negative digits := by
  obtain ⟨sign, hsign, hbody, hnegative⟩ := takeSign_eq (s.toList.dropWhile isBlank)
  unfold leadingInteger? at h
  dsimp only at h
  split at h
  next => cases h
  next hne =>
    refine ⟨_, _, ⟨⟨s.toList.takeWhile isBlank, sign,
      (takeSign (s.toList.dropWhile isBlank)).2.dropWhile isDigit, ?_, ?_, hsign, hnegative, ?_⟩,
      fun d hd => List.mem_takeWhile_imp hd, fun hnil => hne (List.isEmpty_iff.mpr hnil)⟩,
      (Option.some.inj h).symm⟩
    · rw [List.takeWhile_append_dropWhile, ← hbody, List.takeWhile_append_dropWhile]
    · exact fun c hc => List.mem_takeWhile_imp hc
    · intro c hc
      have hstop := List.head?_dropWhile_not isDigit (takeSign (s.toList.dropWhile isBlank)).2
      rw [Option.mem_def.mp hc] at hstop
      simpa using hstop

/-- What starts the text is read, with all of its digits. -/
theorem StartsWithInteger.leadingInteger? {negative : Bool} {digits : List Char}
    (h : StartsWithInteger s negative digits) :
    leadingInteger? s = some (integerOfDigits negative digits) := by
  obtain ⟨⟨blanks, sign, rest, hs, hblanks, hsign, rfl, hrest⟩, hdigits, hne⟩ := h
  obtain ⟨d, more, rfl⟩ := List.exists_cons_of_ne_nil hne
  have hd : isDigit d = true := hdigits d List.mem_cons_self
  have hbody : s.toList.dropWhile isBlank = sign ++ (d :: more ++ rest) := by
    rw [hs, List.dropWhile_append_of_pos hblanks]
    simp only [signs, List.mem_cons, List.not_mem_nil, or_false] at hsign
    rcases hsign with rfl | rfl | rfl
    · exact List.dropWhile_cons_of_neg (by simp [isBlank_of_digit hd])
    · rfl
    · rfl
  have hrun : (d :: more ++ rest).takeWhile isDigit = d :: more := by
    rw [List.takeWhile_append_of_pos hdigits]
    cases rest with
    | nil => exact List.append_nil _
    | cons c rest => rw [List.takeWhile_cons_of_neg (by simp [hrest c rfl]), List.append_nil]
  unfold Text.leadingInteger?
  rw [hbody, List.cons_append, takeSign_append hsign hd, ← List.cons_append]
  dsimp only
  rw [hrun]
  rfl

/-- **What is read of a text that starts with an integer**: its sign and all of its digits. -/
theorem leadingInteger?_eq_some_iff {r : Except IntegerFault Int} : leadingInteger? s = some r ↔
    ∃ negative digits, StartsWithInteger s negative digits ∧
      r = integerOfDigits negative digits := by
  refine ⟨startsWithInteger_of_leadingInteger?, ?_⟩
  rintro ⟨negative, digits, h, rfl⟩
  exact h.leadingInteger?

/-- The digits are still there when the text is stripped. -/
theorem StartsWithInteger.length_le {negative : Bool} {digits : List Char}
    (h : StartsWithInteger s negative digits) : digits.length ≤ (stripList s.toList).length := by
  obtain ⟨⟨blanks, sign, rest, hs, -⟩, hdigits, -⟩ := h
  have hkept : digits.filter (fun c => !isBlank c) = digits :=
    List.filter_eq_self.mpr fun d hd => by rw [isBlank_of_digit (hdigits d hd), Bool.not_false]
  calc digits.length
      ≤ (s.toList.filter fun c => !isBlank c).length := by
        simp only [hs, List.filter_append, hkept, List.length_append]
        omega
    _ = ((stripList s.toList).filter fun c => !isBlank c).length := by rw [filter_stripList]
    _ ≤ (stripList s.toList).length := List.length_filter_le _ _

/-! ### Digits and a hyphen -/

/-- Digits with a hyphen behind them are no digits. -/
theorem groupedDigits?_of_hyphen (hds : ∀ d ∈ ds, isDigit d = true) (after : Bool) :
    groupedDigits? after (ds ++ '-' :: rest) = none := by
  induction ds generalizing after with
  | nil => rfl
  | cons d more ih =>
    obtain ⟨hd, hmore⟩ := List.forall_mem_cons.mp hds
    have hunderscore : d ≠ '_' := by
      rintro rfl
      exact absurd hd (by decide)
    rw [List.cons_append, groupedDigits?, if_neg hunderscore, if_pos hd, ih hmore, Option.map_none]

variable (hs : stripBy isPadding s.toList = ds ++ '-' :: rest) (hds : ∀ d ∈ ds, isDigit d = true)
  (hne : ds ≠ [])

include hs hds hne

theorem takeSign_of_hyphen :
    takeSign (stripBy isPadding s.toList) = (false, ds ++ '-' :: rest) := by
  obtain ⟨d, more, rfl⟩ := List.exists_cons_of_ne_nil hne
  rw [hs]
  exact takeSign_of_isDigit (hds d List.mem_cons_self) _

/-- **Digits and a hyphen are no integer**, whatever follows them. -/
theorem integer?_of_hyphen : integer? s = .error .malformed := by
  simp only [integer?, takeSign_of_hyphen hs hds hne, groupedDigits?_of_hyphen hds]

/-- **Digits and a hyphen are no decimal**, whatever follows them. -/
theorem decimal?_of_hyphen : decimal? s = none := by
  have hwhole : (ds ++ '-' :: rest).takeWhile isDigit = ds := by
    rw [List.takeWhile_append_of_pos hds]
    exact List.append_nil ds
  have hrest : (ds ++ '-' :: rest).dropWhile isDigit = '-' :: rest := by
    rw [List.dropWhile_append_of_pos hds]
    rfl
  have hexponent : exponent? ('-' :: rest) = none := rfl
  simp [decimal?, takeSign_of_hyphen hs hds hne, hwhole, hrest, hexponent, hne]

end DocView.Text
