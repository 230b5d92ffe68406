import DocView.Json.Reader
import DocView.Json.Writer
import Mathlib.Data.List.Basic

/-!
# Texts in quotes are read back

A character is written in one of three ways: as it is, behind a backslash as a letter, or by number.
By number means by its code units, of which a character beyond the basic plane has two. The reader
goes the same way back in two steps, and so does the proof. First the text between the quotes is
turned into code units, and it does not matter there how a unit was written. Then the units are
joined to characters. No unit of a character of the basic plane is half of a pair, so two
characters that stand side by side are never joined to one.

## Main definitions

* `Json.units` - the code units of a character
* `Json.letterEscapes` - the characters that are written with a letter

## Main results

* `Json.escapedChar_cases` - the three ways of writing a character
* `Json.textUnits_escaped` - what is written is read as the code units of its characters
* `Json.joinUnits_units` - code units are joined to the characters they are of
* `Json.text?_quoted` - a text in quotes is read as the text
-/

namespace DocView

/-! ### Hexadecimal digits -/

namespace Text

/-- The last digit of a padded number stands alone. -/
theorem paddedHex_succ {width : Nat} (hwidth : 0 < width) (n : Nat) :
    paddedHex (width + 1) n = paddedHex width (n / 16) ++ [Nat.digitChar (n % 16)] := by
  unfold paddedHex
  by_cases hn : n < 16
  · obtain ⟨w, rfl⟩ := Nat.exists_eq_add_of_lt hwidth
    rw [Nat.toDigits_of_lt_base hn, Nat.div_eq_of_lt hn, Nat.mod_eq_of_lt hn, Nat.toDigits_zero]
    simp [← List.replicate_append_replicate]
  · rw [Nat.toDigits_of_base_le (by decide) (Nat.not_lt.mp hn)]
    simp

theorem paddedHex_one {n : Nat} (hn : n < 16) : paddedHex 1 n = [Nat.digitChar n] := by
  rw [paddedHex, Nat.toDigits_of_lt_base hn]
  rfl

end Text

namespace Json

theorem hexDigit?_digitChar : ∀ d < 16, hexDigit? (Nat.digitChar d) = some d := by decide

/-- Four digits are read as the number that they are of. -/
theorem exists_paddedHex_four {n : Nat} (hn : n < 0x10000) :
    ∃ a b c d, Text.paddedHex 4 n = [a, b, c, d] ∧ hexUnit? a b c d = some n := by
  refine ⟨Nat.digitChar (n / 16 / 16 / 16), Nat.digitChar (n / 16 / 16 % 16),
    Nat.digitChar (n / 16 % 16), Nat.digitChar (n % 16), ?_, ?_⟩
  · rw [Text.paddedHex_succ (by decide), Text.paddedHex_succ (by decide),
      Text.paddedHex_succ (by decide), Text.paddedHex_one (by omega)]
    rfl
  · have hvalue : (((n / 16 / 16 / 16) * 16 + n / 16 / 16 % 16) * 16 + n / 16 % 16) * 16 + n % 16
        = n := by omega
    simp only [hexUnit?, hexDigit?_digitChar (n / 16 / 16 / 16) (by omega),
      hexDigit?_digitChar (n / 16 / 16 % 16) (by omega),
      hexDigit?_digitChar (n / 16 % 16) (by omega), hexDigit?_digitChar (n % 16) (by omega),
      Option.bind_eq_bind, Option.bind_some, hvalue]

/-! ### Code units -/

/-- The code units of a character: itself, or a pair of halves. -/
def units (c : Char) : List Nat :=
  if c.toNat < 0x10000 then [c.toNat]
  else [0xD800 + (c.toNat - 0x10000) / 0x400, 0xDC00 + (c.toNat - 0x10000) % 0x400]

/-- The numbers of characters leave out those of the halves of pairs. -/
theorem toNat_valid (c : Char) : c.toNat < 0xD800 ∨ 0xE000 ≤ c.toNat ∧ c.toNat < 0x110000 := by
  have hvalid : c.toNat < 0xD800 ∨ 0xDFFF < c.toNat ∧ c.toNat < 0x110000 := c.valid
  omega

theorem lt_of_mem_units {c : Char} {n : Nat} (hn : n ∈ units c) : n < 0x10000 := by
  have hvalid := toNat_valid c
  unfold units at hn
  split at hn <;> simp at hn <;> omega

/-! ### Escapes -/

/-- The characters that are written with a letter, and the letters. -/
def letterEscapes : List (Char × Char) :=
  [('"', '"'), ('\\', '\\'), ('\n', 'n'), ('\r', 'r'), ('\t', 't'), (Char.ofNat 12, 'f'),
    (Char.ofNat 8, 'b')]

theorem mem_of_letterEscape? {c letter : Char} (h : letterEscape? c = some letter) :
    (c, letter) ∈ letterEscapes := by
  have hnumber : ∀ {n}, c.toNat = n → c = Char.ofNat n := by
    rintro n rfl
    exact (Char.ofNat_toNat c).symm
  unfold letterEscape? at h
  repeat' split at h
  all_goals cases h
  next hc => rcases hc with rfl | rfl <;> simp [letterEscapes]
  next hc => simp [letterEscapes, hc]
  next hc => simp [letterEscapes, hc]
  next hc => simp [letterEscapes, hc]
  next hc => simp [letterEscapes, hnumber hc]
  next hc => simp [letterEscapes, hnumber hc]

/-- A character stands for itself, or behind a backslash as one letter, or its code units are
written in digits. -/
theorem escapedChar_cases (c : Char) :
    (escapedChar c = [c] ∧ (32 ≤ c.toNat ∧ c.toNat < 127) ∧ c ≠ '"' ∧ c ≠ '\\') ∨
    (∃ letter, escapedChar c = ['\\', letter] ∧ (c, letter) ∈ letterEscapes) ∨
    (escapedChar c = (units c).flatMap unitEscape ∧ ¬ (32 ≤ c.toNat ∧ c.toNat < 127)) := by
  unfold escapedChar
  cases hletter : letterEscape? c with
  | some letter => exact .inr (.inl ⟨letter, rfl, mem_of_letterEscape? hletter⟩)
  | none =>
    have hquote : c ≠ '"' ∧ c ≠ '\\' := by
      constructor <;>
      · rintro rfl
        simp [letterEscape?] at hletter
    dsimp only
    split
    next hprintable => exact .inl ⟨rfl, hprintable, hquote⟩
    next hprintable =>
      refine .inr (.inr ⟨?_, hprintable⟩)
      unfold units
      split <;> simp

/-! ### From the text to the code units -/

section

variable {opening : Nat} {acc : List Nat} {rest : List Char}

theorem textUnits_unitEscape {n : Nat} (hn : n < 0x10000) (hrest : rest ≠ []) :
    textUnits opening acc (unitEscape n ++ rest) = textUnits opening (n :: acc) rest := by
  obtain ⟨a, b, c, d, hdigits, hunit⟩ := exists_paddedHex_four hn
  obtain ⟨next, more, rfl⟩ := List.exists_cons_of_ne_nil hrest
  rw [unitEscape, hdigits]
  show textUnits opening acc ('\\' :: 'u' :: a :: b :: c :: d :: next :: more) = _
  rw [textUnits, hunit]

theorem textUnits_letter {letter plain : Char} (hletter : escaped? letter = some plain) :
    textUnits opening acc ('\\' :: letter :: rest)
      = textUnits opening (plain.toNat :: acc) rest := by
  have hu : letter ≠ 'u' := by
    rintro rfl
    cases hletter
  rw [textUnits, if_neg hu, hletter]
  exact fun _ _ _ _ _ _ h => absurd h hu

theorem textUnits_plain {c : Char} (hquote : c ≠ '"') (hbackslash : c ≠ '\\')
    (hcontrol : 32 ≤ c.toNat) :
    textUnits opening acc (c :: rest) = textUnits opening (c.toNat :: acc) rest := by
  rw [textUnits, if_neg (Nat.not_lt.mpr hcontrol)]
  · exact hquote
  · exact fun h _ => hbackslash h
  · exact fun _ _ _ _ _ _ h _ => hbackslash h
  · exact fun _ _ h _ => hbackslash h

/-- A letter stands for the character that is written with it. -/
theorem escaped?_of_mem_letterEscapes {c letter : Char} (h : (c, letter) ∈ letterEscapes) :
    escaped? letter = some c ∧ c.toNat < 0x10000 := by
  have hall : ∀ p ∈ letterEscapes, escaped? p.2 = some p.1 ∧ p.1.toNat < 0x10000 := by decide
  exact hall _ h

theorem textUnits_unitEscapes {ns : List Nat} (hns : ∀ n ∈ ns, n < 0x10000) (hrest : rest ≠ []) :
    textUnits opening acc (ns.flatMap unitEscape ++ rest)
      = textUnits opening (ns.reverse ++ acc) rest := by
  induction ns generalizing acc with
  | nil => rfl
  | cons n ns ih =>
    obtain ⟨hn, hmore⟩ := List.forall_mem_cons.mp hns
    have hhead : ns.flatMap unitEscape ++ rest ≠ [] := List.append_ne_nil_of_right_ne_nil _ hrest
    rw [List.flatMap_cons, List.append_assoc, textUnits_unitEscape hn hhead, ih hmore,
      List.reverse_cons, List.append_assoc, List.singleton_append]

/-- However a character is written, it is read as its code units. -/
theorem textUnits_escapedChar (c : Char) (hrest : rest ≠ []) :
    textUnits opening acc (escapedChar c ++ rest)
      = textUnits opening ((units c).reverse ++ acc) rest := by
  rcases escapedChar_cases c with ⟨h, hprintable, hquote, hbackslash⟩ | ⟨letter, h, hletter⟩ | ⟨h, -⟩
  · rw [h, units, if_pos (by omega)]
    exact textUnits_plain hquote hbackslash hprintable.1
  · obtain ⟨hescaped, hsmall⟩ := escaped?_of_mem_letterEscapes hletter
    rw [h, units, if_pos hsmall]
    exact textUnits_letter hescaped
  · rw [h]
    exact textUnits_unitEscapes (fun _ hn => lt_of_mem_units hn) hrest

/-- **What is written is read as the code units of its characters.** -/
theorem textUnits_escaped (cs : List Char) :
    textUnits opening acc (cs.flatMap escapedChar ++ '"' :: rest)
      = .ok (acc.reverse ++ cs.flatMap units, rest) := by
  induction cs generalizing acc with
  | nil => simp [textUnits]
  | cons c cs ih =>
    rw [List.flatMap_cons, List.append_assoc, textUnits_escapedChar c (by simp), ih]
    simp

end

/-! ### Joining -/

/-- No character is half of a pair. -/
theorem notSurrogate_toNat (c : Char) :
    isHighSurrogate c.toNat = false ∧ isLowSurrogate c.toNat = false := by
  have hvalid := toNat_valid c
  constructor
  · simp only [isHighSurrogate, Bool.and_eq_false_iff, decide_eq_false_iff_not]
    omega
  · simp only [isLowSurrogate, Bool.and_eq_false_iff, decide_eq_false_iff_not]
    omega

theorem joinUnits_toNat_cons (c : Char) (rest : List Nat) :
    joinUnits (c.toNat :: rest) = c :: joinUnits rest := by
  obtain ⟨hhigh, hlow⟩ := notSurrogate_toNat c
  have hchar : unitChar c.toNat = c := by
    rw [unitChar, hhigh, hlow]
    exact Char.ofNat_toNat c
  cases rest with
  | nil => simp [joinUnits, hchar]
  | cons next rest => simp [joinUnits, hchar, hhigh]

/-- **Code units are joined to the characters they are of.** -/
theorem joinUnits_units (cs : List Char) : joinUnits (cs.flatMap units) = cs := by
  induction cs with
  | nil => rfl
  | cons c cs ih =>
    have hvalid := toNat_valid c
    rw [List.flatMap_cons, units]
    split
    next => rw [List.singleton_append, joinUnits_toNat_cons, ih]
    next hlarge =>
      have hhigh : isHighSurrogate (0xD800 + (c.toNat - 0x10000) / 0x400) = true := by
        simp [isHighSurrogate]
        omega
      have hlow : isLowSurrogate (0xDC00 + (c.toNat - 0x10000) % 0x400) = true := by
        simp [isLowSurrogate]
        omega
      have hjoin : joinSurrogates (0xD800 + (c.toNat - 0x10000) / 0x400)
          (0xDC00 + (c.toNat - 0x10000) % 0x400) = c := by
        have hnumber : 0x10000 + (0xD800 + (c.toNat - 0x10000) / 0x400 - 0xD800) * 0x400
            + (0xDC00 + (c.toNat - 0x10000) % 0x400 - 0xDC00) = c.toNat := by omega
        rw [joinSurrogates, hnumber, Char.ofNat_toNat]
      show joinUnits (_ :: _ :: cs.flatMap units) = _
      rw [joinUnits, hhigh, hlow, hjoin, ih]
      rfl

/-- **A text in quotes is read as the text**, whatever follows it. -/
theorem text?_quoted (s : String) (rest : List Char) :
    text? (s.toList.flatMap escapedChar ++ '"' :: rest) = .ok (s, rest) := by
  simp only [text?, textUnits_escaped, List.reverse_nil, List.nil_append]
  show Except.ok (String.ofList (joinUnits (s.toList.flatMap units)), rest) = _
  rw [joinUnits_units, String.ofList_toList]

end Json

end DocView
