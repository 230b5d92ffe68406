import DocView.Text.Quoted

/-!
# UTF-8

Text as bytes. Bytes that are no UTF-8 are refused with the place and the reason: a byte that
starts no character, a character broken off by a byte that does not continue it, or one broken off
by the end.

The second byte of a character is limited further by the first, so that no character is written
longer than it needs to be, none lies beyond the last plane, and none is half of a surrogate pair.

## Main definitions

* `Utf8.encode`, `Utf8.decode`
* `Utf8.Fault`
* `Utf8.repair` - a text in which marks stand for faulty bytes
-/

namespace DocView.Utf8

/-- Why bytes are no text, with the bytes that are at fault. -/
inductive Fault where
  | badStart (position : Nat) (byte : UInt8)
  | broken (position : Nat) (bytes : List UInt8)
  | ended (position : Nat) (bytes : List UInt8)
deriving DecidableEq, Repr

/-- The place of faulty bytes in words. -/
def placeText (position : Nat) : List UInt8 → String
  | [byte] =>
    "byte 0x" ++ String.ofList (Text.paddedHex 2 byte.toNat) ++ " in position " ++ toString position
  | bytes =>
    "bytes in position " ++ toString position ++ "-" ++ toString (position + bytes.length - 1)

/-- A fault in words. -/
def Fault.message (fault : Fault) : String :=
  let (position, bytes, reason) := match fault with
    | .badStart position byte => (position, [byte], "invalid start byte")
    | .broken position bytes => (position, bytes, "invalid continuation byte")
    | .ended position bytes => (position, bytes, "unexpected end of data")
  "'utf-8' codec can't decode " ++ placeText position bytes ++ ": " ++ reason

/-- The bounds of each byte after a first one; `none` if the byte starts no character. -/
def following? (first : Nat) : Option (List (Nat × Nat)) :=
  if first < 0x80 then some []
  else if first < 0xC2 then none
  else if first < 0xE0 then some [(0x80, 0xBF)]
  else if first < 0xF0 then
    some [(if first = 0xE0 then 0xA0 else 0x80, if first = 0xED then 0x9F else 0xBF), (0x80, 0xBF)]
  else if first < 0xF5 then
    some [(if first = 0xF0 then 0x90 else 0x80, if first = 0xF4 then 0x8F else 0xBF),
      (0x80, 0xBF), (0x80, 0xBF)]
  else none

/-- Takes the bytes that continue a character. On a fault, answers with the part of the character
that is there and whether it is broken off by another byte. -/
def takeRest (seen : List UInt8) : List (Nat × Nat) → List UInt8 →
    Except (List UInt8 × Bool) (List UInt8)
  | [], rest => .ok rest
  | _ :: _, [] => .error (seen, false)
  | (low, high) :: bounds, b :: rest =>
    if low ≤ b.toNat ∧ b.toNat ≤ high then takeRest (seen ++ [b]) bounds rest
    else .error (seen, true)

/-- The first fault in bytes, which are counted from a position. -/
def firstFault? : Nat → Nat → List UInt8 → Option Fault
  | 0, _, _ => none
  | _, _, [] => none
  | fuel + 1, position, b :: rest =>
    match following? b.toNat with
    | none => some (.badStart position b)
    | some bounds =>
      match takeRest [b] bounds rest with
      | .error (bytes, true) => some (.broken position bytes)
      | .error (bytes, false) => some (.ended position bytes)
      | .ok more => firstFault? fuel (position + 1 + bounds.length) more

/-- The bytes of a text. -/
def encode (s : String) : List UInt8 := s.toUTF8.data.toList

/-- The text that bytes denote. -/
def decode (bytes : List UInt8) : Except Fault String :=
  match String.fromUTF8? ⟨bytes.toArray⟩ with
  | some s => .ok s
  | none => .error ((firstFault? bytes.length 0 bytes).getD (.ended bytes.length []))

/-! ### Faulty bytes made good -/

/-- The character that the bytes of a well-formed one denote. -/
def charOf (first : UInt8) (others : List UInt8) : Char :=
  let lead := match others.length with
    | 0 => first.toNat
    | 1 => first.toNat % 0x20
    | 2 => first.toNat % 0x10
    | _ => first.toNat % 0x08
  Char.ofNat (others.foldl (fun n b => 0x40 * n + b.toNat % 0x40) lead)

/-- The characters of at most so many bytes, with a mark for each run of faulty bytes. -/
def repairUpTo : Nat → List UInt8 → List Char
  | 0, _ => []
  | _, [] => []
  | fuel + 1, b :: rest =>
    match following? b.toNat with
    | none => '\ufffd' :: repairUpTo fuel rest
    | some bounds =>
      match takeRest [b] bounds rest with
      | .ok more => charOf b (rest.take bounds.length) :: repairUpTo fuel more
      | .error (seen, _) => '\ufffd' :: repairUpTo fuel (rest.drop (seen.length - 1))

/-- The text that bytes denote, with a replacement mark for each run of faulty bytes. -/
def repair (bytes : List UInt8) : String := String.ofList (repairUpTo bytes.length bytes)

end DocView.Utf8
