import DocView.Bytes
import DocView.Text.Utf8
import DocView.Value.Literal

/-!
# Reading MessagePack

The reverse of writing, and more: every encoding of a length or number is accepted, doubles may be
given in single precision, and *extensions*, a code with bytes, are read as frozen lists of the
two. Codes are not negative, except for the one of a moment, whose bytes have to be seconds alone or
nanoseconds below a billion with the seconds.

The number of items that a list announces, and that of the members of an object, is checked against
the size of the whole input before any of them is read. Names of members have to be texts or bytes.

## Limitations

Names of members are texts here, so a name that is bytes is read as the literal of the bytes. How
deep lists and objects may be nested is not limited.

## Fuel

No byte costs more than three calls: one for a value, one for the list or object that it starts and
one for its first part. So three times the number of bytes is enough.

## Main definitions

* `MessagePack.ReadFault`
* `MessagePack.read`
-/

namespace DocView.MessagePack

/-- Why bytes are no value. -/
inductive ReadFault where
  | incomplete
  | extraData
  | badTag
  | badText (fault : Utf8.Fault)
  | badName (kind : String)
  | badCode
  | badMomentLength
  | badNanoseconds
  | tooManyItems (count limit : Nat)
  | tooManyMembers (count limit : Nat)
deriving DecidableEq, Repr

/-- A fault in words. A tag that is not in use has none. -/
def ReadFault.message : ReadFault → String
  | .incomplete => "Unpack failed: incomplete input"
  | .extraData => "unpack(b) received extra data."
  | .badTag => ""
  | .badText fault => fault.message
  | .badName kind => kind ++ " is not allowed for map key when strict_map_key=True"
  | .badCode => "code must be 0~127"
  | .badMomentLength => "Unpack failed: error = -1"
  | .badNanoseconds => "nanoseconds must be a non-negative integer less than 999999999."
  | .tooManyItems count limit =>
    toString count ++ " exceeds max_array_len(" ++ toString limit ++ ")"
  | .tooManyMembers count limit =>
    toString count ++ " exceeds max_map_len(" ++ toString limit ++ ")"

/-- Something read from the start of bytes, and the bytes after it. -/
abbrev Step (α : Type) := List UInt8 → Except ReadFault (α × List UInt8)

/-- Takes so many bytes. -/
def take (count : Nat) : Step (List UInt8) := fun bytes =>
  let taken := bytes.take count
  if taken.length < count then .error .incomplete else .ok (taken, bytes.drop count)

/-- Takes a number of a width. -/
def natural (width : Nat) : Step Nat := fun bytes => do
  let (taken, rest) ← take width bytes
  .ok (Bytes.toNat taken, rest)

/-- Takes a number of a width in two's complement. -/
def integer (width : Nat) : Step Value := fun bytes => do
  let (n, rest) ← natural width bytes
  let limit := Nat.pow 256 width
  .ok (.int (if limit ≤ 2 * n then (n : Int) - limit else n), rest)

/-- Takes a text of so many bytes. -/
def text (length : Nat) : Step Value := fun bytes => do
  let (taken, rest) ← take length bytes
  match Utf8.decode taken with
  | .ok s => .ok (.str s, rest)
  | .error fault => .error (.badText fault)

/-- The code of a moment. -/
def momentCode : Int := -1

/-- The nanoseconds that the bytes of a moment give besides its seconds, if they have one of the
lengths that the bytes of a moment may have. -/
def nanoseconds? (data : List UInt8) : Option Nat :=
  if data.length = 4 then some 0
  else if data.length = 8 then some (Bytes.toNat data / Nat.pow 2 34)
  else if data.length = 12 then some (Bytes.toNat (data.take 4))
  else none

/-- Why a code with bytes is no extension, if it is none. -/
def extensionFault? (code : Int) (data : List UInt8) : Option ReadFault :=
  if code = momentCode then
    match nanoseconds? data with
    | none => some .badMomentLength
    | some n => if n < 1000000000 then none else some .badNanoseconds
  else if code < 0 then some .badCode
  else none

/-- Takes an extension of so many bytes. -/
def extension (length : Nat) : Step Value := fun bytes => do
  let (n, rest) ← natural 1 bytes
  let (data, rest) ← take length rest
  let code : Int := if 0x80 ≤ n then (n : Int) - 0x100 else n
  match extensionFault? code data with
  | some fault => .error fault
  | none => .ok (.list .frozen [.int code, .bytes data], rest)

/-- The double that thirty-two bits of single precision denote. -/
def ofSingle (bits : Nat) : Binary64 :=
  let negative := bits / Nat.pow 2 31 == 1
  let exponent := bits / Nat.pow 2 23 % Nat.pow 2 8
  let fraction := bits % Nat.pow 2 23
  if exponent = 255 then
    if fraction = 0 then .infinity negative
    else ⟨UInt64.ofNat (bits / Nat.pow 2 31 * Nat.pow 2 63 + Binary64.infinityBits
      + fraction * Nat.pow 2 29)⟩
  else
    let significand := if exponent = 0 then fraction else Nat.pow 2 23 + fraction
    .ofRatio negative (significand * Nat.pow 2 (exponent - 1)) (Nat.pow 2 149)

/-- Takes a number of a width, then what that many asks for. -/
def sized {α : Type} (width : Nat) (body : Nat → Step α) : Step α := fun bytes => do
  let (n, rest) ← natural width bytes
  body n rest

/-- What a tag announces. -/
inductive Head where
  | value (v : Value)
  | natural (width : Nat)
  | integer (width : Nat)
  | single
  | double
  | text (length : Nat)
  | sizedText (width : Nat)
  | sizedBytes (width : Nat)
  | extension (length : Nat)
  | sizedExtension (width : Nat)
  | list (length : Nat)
  | sizedList (width : Nat)
  | object (length : Nat)
  | sizedObject (width : Nat)

/-- What a tag announces, if it is in use. -/
def head? (tag : Nat) : Option Head :=
  if tag < 0x80 then some (.value (.int tag))
  else if tag < 0x90 then some (.object (tag - 0x80))
  else if tag < 0xA0 then some (.list (tag - 0x90))
  else if tag < 0xC0 then some (.text (tag - 0xA0))
  else if tag = 0xC0 then some (.value .null)
  else if tag = 0xC1 then none
  else if tag < 0xC4 then some (.value (.bool (tag == 0xC3)))
  else if tag < 0xC7 then some (.sizedBytes (Nat.pow 2 (tag - 0xC4)))
  else if tag < 0xCA then some (.sizedExtension (Nat.pow 2 (tag - 0xC7)))
  else if tag = 0xCA then some .single
  else if tag = 0xCB then some .double
  else if tag < 0xD0 then some (.natural (Nat.pow 2 (tag - 0xCC)))
  else if tag < 0xD4 then some (.integer (Nat.pow 2 (tag - 0xD0)))
  else if tag < 0xD9 then some (.extension (Nat.pow 2 (tag - 0xD4)))
  else if tag < 0xDC then some (.sizedText (Nat.pow 2 (tag - 0xD9)))
  else if tag < 0xDE then some (.sizedList (Nat.pow 2 (tag - 0xDB)))
  else if tag < 0xE0 then some (.sizedObject (Nat.pow 2 (tag - 0xDD)))
  else some (.value (.int ((tag : Int) - 0x100)))

/-- The kind of a value that was read. Frozen lists are extensions. -/
def readKind : Value → String
  | .list .frozen (.int code :: _) => if code = momentCode then "Timestamp" else "ExtType"
  | v => v.kindName

mutual

/-- Reads a value from input of a size. -/
def readValue (size : Nat) : Nat → Step Value
  | 0, _ => .error .incomplete
  | _, [] => .error .incomplete
  | fuel + 1, tag :: bytes =>
    match head? tag.toNat with
    | none => .error .badTag
    | some (.value v) => .ok (v, bytes)
    | some (.natural width) => do
      let (n, rest) ← natural width bytes
      .ok (.int n, rest)
    | some (.integer width) => integer width bytes
    | some .single => do
      let (n, rest) ← natural 4 bytes
      .ok (.float (ofSingle n), rest)
    | some .double => do
      let (n, rest) ← natural 8 bytes
      .ok (.float ⟨UInt64.ofNat n⟩, rest)
    | some (.text length) => text length bytes
    | some (.sizedText width) => sized width text bytes
    | some (.sizedBytes width) => do
      let (taken, rest) ← sized width take bytes
      .ok (.bytes taken, rest)
    | some (.extension length) => extension length bytes
    | some (.sizedExtension width) => sized width extension bytes
    | some (.list length) => readList size fuel length bytes
    | some (.sizedList width) => do
      let (n, rest) ← natural width bytes
      readList size fuel n rest
    | some (.object length) => readObject size fuel length bytes
    | some (.sizedObject width) => do
      let (n, rest) ← natural width bytes
      readObject size fuel n rest

/-- Reads a list of so many items. -/
def readList (size : Nat) : Nat → Nat → Step Value
  | 0, _, _ => .error .incomplete
  | fuel + 1, count, bytes => do
    if size < count then .error (.tooManyItems count size)
    let (items, rest) ← readItems size fuel count bytes
    .ok (.array items, rest)

/-- Reads an object of so many members. -/
def readObject (size : Nat) : Nat → Nat → Step Value
  | 0, _, _ => .error .incomplete
  | fuel + 1, count, bytes => do
    if size / 2 < count then .error (.tooManyMembers count (size / 2))
    let (entries, rest) ← readEntries size fuel count bytes
    .ok (.record (Members.ofEntries entries), rest)

/-- Reads so many items. -/
def readItems (size : Nat) : Nat → Nat → Step (List Value)
  | _, 0, bytes => .ok ([], bytes)
  | 0, _ + 1, _ => .error .incomplete
  | fuel + 1, count + 1, bytes => do
    let (v, rest) ← readValue size fuel bytes
    let (vs, rest) ← readItems size fuel count rest
    .ok (v :: vs, rest)

/-- Reads so many members. A name is checked once its value has been read. -/
def readEntries (size : Nat) : Nat → Nat → Step (List (String × Value))
  | _, 0, bytes => .ok ([], bytes)
  | 0, _ + 1, _ => .error .incomplete
  | fuel + 1, count + 1, bytes => do
    let (name, rest) ← readValue size fuel bytes
    let (v, rest) ← readValue size fuel rest
    match name with
    | .str name => do
      let (entries, rest) ← readEntries size fuel count rest
      .ok ((name, v) :: entries, rest)
    | .bytes _ => do
      let (entries, rest) ← readEntries size fuel count rest
      .ok ((name.literal, v) :: entries, rest)
    | name => .error (.badName (readKind name))

end

/-- Reads bytes as one value, with nothing after it. -/
def read (bytes : List UInt8) : Except ReadFault Value := do
  let size := bytes.length
  let (v, rest) ← readValue size (3 * size + 3) bytes
  if rest.isEmpty then .ok v else .error .extraData

end DocView.MessagePack
