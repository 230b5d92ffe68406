import DocView.Bytes
import DocView.Text.Utf8
import DocView.Value.Basic

/-!
# Writing MessagePack

Values as bytes: a tag, then a length or a number in as few bytes as its size allows. Doubles
always take eight bytes. Integers are limited to sixty-four bits, with or without a sign, and
lengths to thirty-two.

## Main definitions

* `MessagePack.WriteFault`
* `MessagePack.write`
-/

namespace DocView.MessagePack

/-- Why a value cannot be written. -/
inductive WriteFault where
  | integerOutOfRange
  | tooLong (what : String)
  | foreign (kind : String)
deriving DecidableEq, Repr

/-- A fault in words. -/
def WriteFault.message : WriteFault → String
  | .integerOutOfRange => "Integer value out of range"
  | .tooLong what => what ++ " is too large"
  | .foreign kind => "can not serialize '" ++ kind ++ "' object"

/-- The full name of a value's kind. -/
def kindName (v : Value) : String :=
  match v with
  | .date _ => "datetime.date"
  | .moment _ => "datetime.datetime"
  | v => v.kindName

/-- A tag and a number of a width. -/
def tagged (tag width n : Nat) : List UInt8 := UInt8.ofNat tag :: Bytes.ofNat width n

/-- An integer that is not negative. -/
def natBytes (n : Nat) : Except WriteFault (List UInt8) :=
  if n < 0x80 then .ok [UInt8.ofNat n]
  else if n < 0x100 then .ok (tagged 0xCC 1 n)
  else if n < 0x10000 then .ok (tagged 0xCD 2 n)
  else if n < 0x100000000 then .ok (tagged 0xCE 4 n)
  else if n < Nat.pow 2 64 then .ok (tagged 0xCF 8 n)
  else .error .integerOutOfRange

/-- A negative integer of the given absolute value, in two's complement. -/
def negativeBytes (n : Nat) : Except WriteFault (List UInt8) :=
  if n ≤ 0x20 then .ok [UInt8.ofNat (0x100 - n)]
  else if n ≤ 0x80 then .ok (tagged 0xD0 1 (0x100 - n))
  else if n ≤ 0x8000 then .ok (tagged 0xD1 2 (0x10000 - n))
  else if n ≤ 0x80000000 then .ok (tagged 0xD2 4 (0x100000000 - n))
  else if n ≤ Nat.pow 2 63 then .ok (tagged 0xD3 8 (Nat.pow 2 64 - n))
  else .error .integerOutOfRange

/-- An integer. -/
def intBytes (n : Int) : Except WriteFault (List UInt8) :=
  if n < 0 then negativeBytes n.natAbs else natBytes n.toNat

/-- The head of a text of so many bytes. -/
def textHead (length : Nat) : List UInt8 :=
  if length < 0x20 then [UInt8.ofNat (0xA0 + length)]
  else if length < 0x100 then tagged 0xD9 1 length
  else if length < 0x10000 then tagged 0xDA 2 length
  else tagged 0xDB 4 length

/-- The head of a byte string. -/
def bytesHead (length : Nat) : List UInt8 :=
  if length < 0x100 then tagged 0xC4 1 length
  else if length < 0x10000 then tagged 0xC5 2 length
  else tagged 0xC6 4 length

/-- The head of a list of so many items. -/
def listHead (length : Nat) : List UInt8 :=
  if length < 0x10 then [UInt8.ofNat (0x90 + length)]
  else if length < 0x10000 then tagged 0xDC 2 length
  else tagged 0xDD 4 length

/-- The head of an object of so many members. -/
def objectHead (length : Nat) : List UInt8 :=
  if length < 0x10 then [UInt8.ofNat (0x80 + length)]
  else if length < 0x10000 then tagged 0xDE 2 length
  else tagged 0xDF 4 length

/-- A head for a length, which has to fit into four bytes. -/
def headed (what : String) (head : Nat → List UInt8) (length : Nat) :
    Except WriteFault (List UInt8) :=
  if length < Nat.pow 2 32 then .ok (head length) else .error (.tooLong what)

/-- A text. -/
def textBytes (s : String) : Except WriteFault (List UInt8) := do
  let bytes := Utf8.encode s
  let head ← headed "unicode string" textHead bytes.length
  .ok (head ++ bytes)

mutual

/-- A value as bytes. -/
def write : Value → Except WriteFault (List UInt8)
  | .null => .ok [0xC0]
  | .bool b => .ok [if b then 0xC3 else 0xC2]
  | .int n => intBytes n
  | .float x => .ok (tagged 0xCB 8 x.bits.toNat)
  | .str s => textBytes s
  | .bytes bs => do
    let head ← headed "bytes object" bytesHead bs.length
    .ok (head ++ bs)
  | .list _ items => do
    let head ← headed "list" listHead items.length
    .ok (head ++ (← writeItems items))
  | .object .plain members => do
    let head ← headed "dict" objectHead members.length
    .ok (head ++ (← writeMembers members))
  | v => .error (.foreign (kindName v))

/-- The items of a list as bytes. -/
def writeItems : List Value → Except WriteFault (List UInt8)
  | [] => .ok []
  | v :: rest => do
    let first ← write v
    .ok (first ++ (← writeItems rest))

/-- The members of an object as bytes. -/
def writeMembers : List (String × Value) → Except WriteFault (List UInt8)
  | [] => .ok []
  | (name, v) :: rest => do
    let name ← textBytes name
    let first ← write v
    .ok (name ++ first ++ (← writeMembers rest))

end

end DocView.MessagePack
