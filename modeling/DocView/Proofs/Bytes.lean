import DocView.Bytes
import DocView.Text.Utf8
import Mathlib.Tactic.Ring

/-!
# Numbers and texts in bytes are read back

A number that fits into its width and any text are what their bytes are read as.

## Main results

* `Bytes.toNat_ofNat`
* `Utf8.decode_encode`
-/

namespace DocView

namespace Bytes

theorem length_ofNat (width n : Nat) : (ofNat width n).length = width := by
  induction width with
  | zero => rfl
  | succ width ih => rw [ofNat, List.length_cons, ih]

/-- Bytes are added to what has been read before as the last digits of a number. -/
theorem foldl_ofNat (width n a : Nat) :
    (ofNat width n).foldl (fun m b => 256 * m + b.toNat) a = 256 ^ width * a + n % 256 ^ width := by
  induction width generalizing a with
  | zero => simp [ofNat, Nat.mod_one]
  | succ width ih =>
    have hdigit : (UInt8.ofNat (n / Nat.pow 256 width)).toNat = n / 256 ^ width % 256 :=
      UInt8.toNat_ofNat'
    rw [ofNat, List.foldl_cons, ih, hdigit, Nat.pow_succ, Nat.mod_mul]
    ring

/-- **A number that fits into its width is read back.** -/
theorem toNat_ofNat {width n : Nat} (h : n < 256 ^ width) : toNat (ofNat width n) = n := by
  rw [toNat, foldl_ofNat, Nat.mul_zero, Nat.zero_add, Nat.mod_eq_of_lt h]

end Bytes

namespace Utf8

theorem encode_append (s t : String) : encode (s ++ t) = encode s ++ encode t := by
  simp [encode, ByteArray.data_append]

/-- **A text is read back.** -/
theorem decode_encode (s : String) : decode (encode s) = .ok s := by
  have hread : String.fromUTF8? s.toUTF8 = some s := by
    rw [String.fromUTF8?, String.toUTF8, dif_pos s.isValidUTF8]
    rfl
  rw [decode, encode, Array.toArray_toList, hread]

end Utf8

end DocView
