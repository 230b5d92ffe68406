import DocView.Proofs.Json.Numeral

/-!
# The characters of numerals

Whatever double is written, and however its shortest decimal is found, the text is laid out from
digits, a point, signs and letters. That much is read off the layout alone, and it is all that a
reader needs to tell a numeral from the text of any other value, or from anything that is looked for
in a text.

## Main definitions

* `Json.IsNumeralText`

## Main results

* `Json.isNumeralText_intText`, `Json.isNumeralText_floatText`
-/

namespace DocView

namespace Json

/-- Whether a character may be part of a numeral, or of a name that stands for one. -/
def isNumeralChar (c : Char) : Bool := c.isAlphanum || c == '.' || c == '-' || c == '+'

/-- A text made of the characters of numerals. -/
def IsNumeralText (cs : List Char) : Prop := ∀ c ∈ cs, isNumeralChar c = true

instance : DecidablePred IsNumeralText := fun cs =>
  List.decidableBAll (fun c => isNumeralChar c = true) cs

theorem IsNumeralText.append {cs ds : List Char} (hcs : IsNumeralText cs)
    (hds : IsNumeralText ds) : IsNumeralText (cs ++ ds) :=
  List.forall_mem_append.mpr ⟨hcs, hds⟩

theorem IsNumeralText.cons {c : Char} {cs : List Char} (hc : isNumeralChar c = true)
    (hcs : IsNumeralText cs) : IsNumeralText (c :: cs) :=
  List.forall_mem_cons.mpr ⟨hc, hcs⟩

theorem isNumeralText_nil : IsNumeralText [] := List.forall_mem_nil _

theorem isNumeralChar_of_isDigit {c : Char} (hc : c.isDigit = true) : isNumeralChar c = true := by
  simp [isNumeralChar, Char.isAlphanum, hc]

theorem isNumeralText_toDigits (n : Nat) : IsNumeralText (Nat.toDigits 10 n) :=
  fun _ hc => isNumeralChar_of_isDigit (isDigit_of_mem_toDigits hc)

theorem isNumeralText_zeros (n : Nat) : IsNumeralText (Binary64.zeros n) := by
  intro c hc
  rw [List.eq_of_mem_replicate hc]
  rfl

theorem isNumeralText_intText (n : Int) : IsNumeralText (intText n).toList := by
  rw [toList_intText]
  split
  · exact .append (.cons rfl isNumeralText_nil) (isNumeralText_toDigits _)
  · exact isNumeralText_toDigits _

end Json

open Json

namespace Binary64

theorem isNumeralText_write (layout : Layout) (d : Decimal) : IsNumeralText (layout.write d) := by
  have hds : IsNumeralText (Nat.toDigits 10 d.digits) := isNumeralText_toDigits d.digits
  unfold Layout.write
  dsimp only
  split
  · split
    · exact .cons rfl (.cons rfl (.append (isNumeralText_zeros _) hds))
    · split
      · exact .append (.append hds (isNumeralText_zeros _))
          (.cons rfl (.cons rfl isNumeralText_nil))
      · exact .append (fun c hc => hds c (List.mem_of_mem_take hc))
          (.cons rfl fun c hc => hds c (List.mem_of_mem_drop hc))
  · refine .append (.append (.append ?_ ?_) (isNumeralText_zeros _)) (isNumeralText_toDigits _)
    · -- A mantissa has the digits, with a point behind the first.
      generalize Nat.toDigits 10 d.digits = ds at hds
      match ds with
      | [] => exact isNumeralText_nil
      | [c] => exact hds
      | c :: a :: rest =>
        obtain ⟨hc, hrest⟩ := List.forall_mem_cons.mp hds
        exact .cons hc (.cons rfl hrest)
    · refine .cons rfl (.cons ?_ isNumeralText_nil)
      split <;> rfl

theorem write_ne_nil (layout : Layout) (d : Decimal) : layout.write d ≠ [] := by
  unfold Layout.write
  dsimp only
  repeat' split
  all_goals simp

theorem isNumeralText_text (x : Binary64) (hnan : x.isNaN = false) : IsNumeralText x.text.toList := by
  have hsign : IsNumeralText (if x.negative then "-" else "").toList := by
    split <;> decide
  unfold text
  rw [hnan, if_neg Bool.false_ne_true]
  dsimp only
  split
  · rw [String.toList_append]
    exact .append hsign (by decide)
  · split
    · rw [String.toList_append]
      exact .append hsign (by decide)
    · rw [String.toList_append, String.toList_ofList]
      exact .append hsign (isNumeralText_write _ _)

theorem text_ne_nil (x : Binary64) : x.text.toList ≠ [] := by
  unfold text
  dsimp only
  repeat' split
  all_goals simp [write_ne_nil]

end Binary64

namespace Json

theorem isNumeralText_floatText (x : Binary64) : IsNumeralText (floatText x).toList := by
  unfold floatText
  split
  next => decide
  next hnan =>
    split
    next =>
      split <;> decide
    next => exact Binary64.isNumeralText_text x (Bool.eq_false_iff.mpr hnan)

theorem floatText_ne_nil (x : Binary64) : (floatText x).toList ≠ [] := by
  unfold floatText
  repeat' split
  all_goals first | exact Binary64.text_ne_nil x | decide

end Json

end DocView
