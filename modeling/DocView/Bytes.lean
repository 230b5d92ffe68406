/-!
# Bytes

Whole numbers as bytes, the most significant first.

## Main definitions

* `Bytes.ofNat`, `Bytes.toNat`
-/

namespace DocView.Bytes

/-- The last `width` bytes of a number. -/
def ofNat : Nat → Nat → List UInt8
  | 0, _ => []
  | width + 1, n => UInt8.ofNat (n / Nat.pow 256 width) :: ofNat width n

/-- The number that bytes denote. -/
def toNat (bytes : List UInt8) : Nat := bytes.foldl (fun n b => 256 * n + b.toNat) 0

end DocView.Bytes
