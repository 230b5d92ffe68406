import DocView.Proofs.Json.RoundTrip
import DocView.Proofs.Result
import Mathlib.Data.List.Infix
import Mathlib.Data.List.TakeWhile

/-!
# Integers that are too long

The reader refuses a text for two reasons. The text may be at fault, which has a place and a
message of its own, or it holds an integer with more digits than an integer text may have. The
second has no place, but it can be found all the same: the digits that the reader counted stand in
the text, one after the other. A text without so long a run of digits is read or is at fault.

Where the digits stand is not decided by the run alone. A run inside a text in quotes is never
counted, nor is one behind a fault.

Each part of the reader leaves a rest of the text that it was given, and that is all that has to be
known about what it reads. It is stated together with what the part may complain about, since the
complaints of a later part are about a rest of an earlier one.

## Main definitions

* `Json.HasRun` - a run of digits that is too long for an integer
* `Json.Within` - answers of a part of the reader that stay within the text

## Main results

* `Json.hasRun_of_read` - an integer that is too long is in the text
* `Json.read_digits` - a text of too many digits is refused
-/

namespace DocView.Json

/-- So many digits in a row, more than an integer text may have. -/
structure HasRun (count : Nat) (cs : List Char) : Prop where
  /-- An integer of so many digits is too long. -/
  tooMany : Text.maxDigits < count
  /-- The digits stand in the text, one after the other. -/
  digits : ∃ ds : List Char, ds.length = count ∧ (∀ d ∈ ds, d.isDigit = true) ∧ ds <:+: cs

/-- Answers that stay within a text: what is left is the end of the text, and an integer that is
too long is in the text. -/
def Within {α : Type} (cs : List Char) : Read (α × List Char) → Prop
  | .ok (_, rest) => rest <:+ cs
  | .error (.fault _ _) => True
  | .error (.tooManyDigits count) => HasRun count cs

section

variable {α β : Type} {cs part rest : List Char} {r : Read (α × List Char)}

theorem HasRun.mono {count : Nat} (h : HasRun count part) (hpart : part <:+: cs) :
    HasRun count cs := by
  obtain ⟨hmany, ds, hlength, hdigits, hin⟩ := h
  exact ⟨hmany, ds, hlength, hdigits, hin.trans hpart⟩

/-- What stays within the end of a text stays within the text. -/
theorem Within.mono (h : Within part r) (hpart : part <:+ cs) : Within cs r := by
  rcases r with (⟨_, _⟩ | count) | ⟨_, rest⟩
  · trivial
  · exact HasRun.mono h hpart.isInfix
  · exact List.IsSuffix.trans h hpart

/-- One part after the other stays within the text. -/
theorem Within.bind {f : α × List Char → Read (β × List Char)} (h : Within cs r)
    (hf : ∀ a rest, rest <:+ cs → Within cs (f (a, rest))) : Within cs (r >>= f) := by
  rcases r with (⟨_, _⟩ | _) | ⟨a, rest⟩
  · trivial
  · exact h
  · exact hf a rest h

/-! ### Texts in quotes -/

theorem within_textUnits (opening : Nat) (acc : List Nat) (cs : List Char) :
    Within cs (textUnits opening acc cs) := by
  fun_induction textUnits opening acc cs with
  | case1 | case3 | case4 | case6 | case7 | case9 => trivial
  | case2 acc rest => exact List.suffix_cons _ rest
  | case5 acc a b c d next rest n hunit ih =>
    exact ih.mono (List.suffix_append ['\\', 'u', a, b, c, d] (next :: rest))
  | case8 acc c rest _ plain _ _ ih => exact ih.mono (List.suffix_append ['\\', c] rest)
  | case10 acc c rest _ _ _ _ _ ih => exact ih.mono (List.suffix_cons c rest)

theorem within_text? (cs : List Char) : Within cs (text? cs) :=
  (within_textUnits _ [] cs).bind fun _ _ hrest => hrest

/-! ### Numerals -/

/-- What is left behind a fraction part, if there is one. -/
theorem fractionPart?_suffix (cs : List Char) : ((fractionPart? cs).getD ([], cs)).2 <:+ cs := by
  unfold fractionPart?
  split
  next d more =>
    split_ifs
    · exact (List.dropWhile_suffix _).trans (List.suffix_cons '.' (d :: more))
    · exact List.suffix_rfl
  next => exact List.suffix_rfl

theorem takeSign_suffix (cs : List Char) : (Text.takeSign cs).2 <:+ cs := by
  unfold Text.takeSign
  split
  · exact List.suffix_cons _ _
  · exact List.suffix_cons _ _
  · exact List.suffix_rfl

/-- What is left behind an exponent part, if there is one. -/
theorem exponentPart?_suffix (cs : List Char) : ((exponentPart? cs).getD (0, cs)).2 <:+ cs := by
  unfold exponentPart?
  split
  next e more =>
    split_ifs
    · dsimp only
      split_ifs
      · exact List.suffix_rfl
      · exact ((List.dropWhile_suffix _).trans (takeSign_suffix more)).trans
          (List.suffix_cons e more)
    · exact List.suffix_rfl
  next => exact List.suffix_rfl

/-- The whole part of a numeral is a run of digits at its start. -/
theorem wholePart?_eq_some {whole : List Char} (h : wholePart? cs = some (whole, rest)) :
    whole ++ rest = cs ∧ ∀ d ∈ whole, d.isDigit = true := by
  unfold wholePart? at h
  split at h
  next => cases h; exact ⟨rfl, by simp⟩
  next d more _ =>
    split_ifs at h
    cases h
    exact ⟨List.takeWhile_append_dropWhile, fun _ => List.mem_takeWhile_imp⟩
  next => contradiction

theorem within_numeral? (start : Nat) (negative : Bool) (cs : List Char) :
    Within cs (numeral? start negative cs) := by
  unfold numeral?
  split
  next => trivial
  next whole rest hwhole =>
    obtain ⟨hcs, hdigits⟩ := wholePart?_eq_some hwhole
    have hwholeRest : rest <:+ cs := ⟨whole, hcs⟩
    have hrest := ((exponentPart?_suffix _).trans (fractionPart?_suffix rest)).trans hwholeRest
    dsimp only
    split
    next => exact hrest
    next =>
      unfold Text.integerOfDigits
      split_ifs with hmany
      · exact ⟨hmany, whole, rfl, hdigits, hcs ▸ (List.prefix_append whole rest).isInfix⟩
      · exact hrest

theorem within_scalar? (cs : List Char) : Within cs (scalar? cs) := by
  unfold scalar?
  split
  next rest => exact List.suffix_append ['n', 'u', 'l', 'l'] rest
  next rest => exact List.suffix_append ['t', 'r', 'u', 'e'] rest
  next rest => exact List.suffix_append ['f', 'a', 'l', 's', 'e'] rest
  next rest => exact List.suffix_append ['N', 'a', 'N'] rest
  next rest => exact List.suffix_append "Infinity".toList rest
  next rest => exact List.suffix_append "-Infinity".toList rest
  next rest _ => exact (within_numeral? _ true rest).mono (List.suffix_cons '-' rest)
  next => exact within_numeral? _ false cs

/-! ### Values -/

theorem skipSpace_suffix (cs : List Char) : skipSpace cs <:+ cs := List.dropWhile_suffix _

theorem suffix_of_skipSpace_eq {more : List Char} {c : Char} (h : skipSpace cs = c :: more) :
    more <:+ cs :=
  (List.suffix_cons c more).trans (h ▸ skipSpace_suffix cs)

mutual

/-- **A value stays within its text.** -/
theorem within_value? (fuel : Nat) (cs : List Char) : Within cs (value? fuel cs) := by
  cases fuel with
  | zero => trivial
  | succ fuel =>
    unfold value?
    split
    next => trivial
    next rest =>
      have htext := (within_text? rest).mono (List.suffix_cons '"' rest)
      exact htext.bind fun _ _ hrest => hrest
    next rest =>
      have hopening := List.suffix_cons '[' rest
      split
      next more hclosed => exact (suffix_of_skipSpace_eq hclosed).trans hopening
      next =>
        have hitems := (within_items? fuel _).mono ((skipSpace_suffix rest).trans hopening)
        exact hitems.bind fun _ _ hrest => hrest
    next rest =>
      have hopening := List.suffix_cons '\x7b' rest
      split
      next more hclosed => exact (suffix_of_skipSpace_eq hclosed).trans hopening
      next =>
        have hmembers := (within_members? fuel _).mono ((skipSpace_suffix rest).trans hopening)
        exact hmembers.bind fun _ _ hrest => hrest
    next => exact within_scalar? _

theorem within_items? (fuel : Nat) (cs : List Char) : Within cs (items? fuel cs) := by
  cases fuel with
  | zero => trivial
  | succ fuel =>
    unfold items?
    refine (within_value? fuel cs).bind fun v rest hrest => ?_
    dsimp only
    split
    next more hclosed => exact (suffix_of_skipSpace_eq hclosed).trans hrest
    next more hcomma =>
      have hmore := (suffix_of_skipSpace_eq hcomma).trans hrest
      have hitems := (within_items? fuel _).mono ((skipSpace_suffix more).trans hmore)
      exact hitems.bind fun _ _ hrest => hrest
    next => trivial

theorem within_members? (fuel : Nat) (cs : List Char) : Within cs (members? fuel cs) := by
  cases fuel with
  | zero => trivial
  | succ fuel =>
    unfold members?
    split
    next rest =>
      have hname := (within_text? rest).mono (List.suffix_cons '"' rest)
      refine hname.bind fun name rest hrest => ?_
      dsimp only
      split
      next more hcolon =>
        have hmore := (suffix_of_skipSpace_eq hcolon).trans hrest
        have hvalue := (within_value? fuel _).mono ((skipSpace_suffix more).trans hmore)
        refine hvalue.bind fun v rest hrest => ?_
        dsimp only
        split
        next more hclosed => exact (suffix_of_skipSpace_eq hclosed).trans hrest
        next more hcomma =>
          have hmore := (suffix_of_skipSpace_eq hcomma).trans hrest
          have hmembers := (within_members? fuel _).mono ((skipSpace_suffix more).trans hmore)
          exact hmembers.bind fun _ _ hrest => hrest
        next => trivial
      next => trivial
    next => trivial

end

end

/-! ### Whole texts -/

/-- **An integer that is too long is in the text.** -/
theorem hasRun_of_read {s : String} {count : Nat} (h : read s = .error (.tooManyDigits count)) :
    HasRun count s.toList := by
  have hchars : readChars s.toList = .error (.tooManyDigits count) := by
    unfold read at h
    dsimp only at h
    split at h
    next => contradiction
    next => cases h
    next heq => cases h; exact heq
  unfold readChars at hchars
  split at hchars
  next => cases hchars
  next =>
    have hvalue := within_value? (2 * s.toList.length + 2) (skipSpace s.toList)
    rcases bind_eq_error.mp hchars with hstop | ⟨⟨v, rest⟩, -, hend⟩
    · rw [hstop] at hvalue
      exact HasRun.mono hvalue (skipSpace_suffix s.toList).isInfix
    · dsimp only at hend
      split at hend <;> cases hend

/-- **A text of too many digits is refused**, unless it starts with a zero. -/
theorem read_digits {d : Char} {ds : List Char} (hd : d ≠ '0')
    (hdigits : ∀ c ∈ d :: ds, c.isDigit = true) (hmany : Text.maxDigits < (d :: ds).length) :
    read (String.ofList (d :: ds)) = .error (.tooManyDigits (d :: ds).length) := by
  have hd' : d.isDigit = true := hdigits d List.mem_cons_self
  have hne : ∀ c : Char, c.isDigit = false → d ≠ c := by
    rintro c hc rfl
    exact Bool.false_ne_true (hc.symm.trans hd')
  have hwhole : wholePart? (d :: ds) = some (d :: ds, []) := by
    have hfound := wholePart?_append hdigits (.inr ⟨d, rfl, hd⟩) endsNumeral_nil.endsDigits
    rwa [List.append_nil] at hfound
  have hinteger : Text.integerOfDigits false (d :: ds)
      = .error (.tooManyDigits (d :: ds).length) := if_pos hmany
  have hnumeral : ∀ start, numeral? start false (d :: ds)
      = .error (.tooManyDigits (d :: ds).length) := by
    intro start
    simp [numeral?, hwhole, fractionPart?_eq_none endsNumeral_nil,
      exponentPart?_eq_none endsNumeral_nil, hinteger]
  have hspace : isSpace d = false := by
    simp [isSpace, hne ' ' rfl, hne '\t' rfl, hne '\n' rfl, hne '\r' rfl]
  have hchars : readChars (d :: ds) = .error (.tooManyDigits (d :: ds).length) := by
    rw [readChars]
    · rw [skipSpace_cons hspace, value?_scalar (hne _ rfl) (hne _ rfl) (hne _ rfl),
        scalar?_digit hd', hnumeral]
      rfl
    · exact fun _ h => hne '\ufeff' rfl (List.cons.inj h).1
  rw [read, String.toList_ofList, hchars]

end DocView.Json
