import DocView.Error
import DocView.Json.Writer
import DocView.MessagePack.Reader
import DocView.MessagePack.Writer

/-!
# Encodings of records

Records are kept as JSON, indented so that it can be edited by hand, or as MessagePack, which is
compact. Bytes that are all white space hold no records, whatever the format.

What reads MessagePack is an `Unpacker`, and any will do: all that decoding relies on is that bytes
are a value or fail with a reason in words. Where none is given, it is `MessagePack.read`.

## Main definitions

* `Format`, `Format.ofName?`
* `Unpacker`
* `Format.encode`, `Format.decode`
-/

namespace DocView

/-- The encoding of a file of records. -/
inductive Format where
  | json
  | messagePack
deriving DecidableEq, Repr, Inhabited

/-- Something that reads bytes of MessagePack as one value, or says in words why they are none. -/
abbrev Unpacker := List UInt8 → Except String Value

/-- The unpacker of this library. -/
def Unpacker.standard : Unpacker := fun bytes =>
  (MessagePack.read bytes).mapError MessagePack.ReadFault.message

namespace Format

/-- The name of a format. -/
def name : Format → String
  | .json => "json"
  | .messagePack => "msgpack"

/-- The format of exactly this name. -/
def ofName? (s : String) : Option Format :=
  if s = "json" then some .json else if s = "msgpack" then some .messagePack else none

/-- The format that a value names. -/
def ofValue? : Value → Option Format
  | .str s => ofName? s
  | _ => none

/-- The format that a value names; any other value is refused. -/
def ofValue (v : Value) : Result Format :=
  match ofValue? v with
  | some format => .ok format
  | none => .error (.unknownFormat v.display)

/-- Writes a value. -/
def encode (format : Format) (v : Value) : Result (List UInt8) :=
  match format with
  | .json =>
    match Json.write? .indented v with
    | .ok text => .ok (Utf8.encode text)
    | .error part => .error (.unencodable (Error.ofUnwritable part).message)
  | .messagePack =>
    match MessagePack.write v with
    | .ok bytes => .ok bytes
    | .error .integerOutOfRange =>
      .error (.outOfRange (MessagePack.WriteFault.message .integerOutOfRange))
    | .error fault => .error (.unencodable fault.message)

/-- Whether a byte is white space. -/
def isBlankByte (b : UInt8) : Bool := b == 32 || (9 ≤ b && b ≤ 13)

/-- Reads bytes as one value. -/
def decodeValue (format : Format) (bytes : List UInt8) (unpack : Unpacker := .standard) :
    Result Value :=
  match format with
  | .json =>
    match Utf8.decode bytes with
    | .error fault => .error (.undecodable fault.message)
    | .ok text =>
      match Json.read text with
      | .ok v => .ok v
      | .error fault => .error (.undecodable fault.message)
  | .messagePack =>
    match unpack bytes with
    | .ok v => .ok v
    | .error reason => .error (.undecodable reason)

/-- Reads bytes as a list of records. What the records are is not checked. -/
def decode (format : Format) (bytes : List UInt8) (unpack : Unpacker := .standard) :
    Result (List Value) :=
  if bytes.all isBlankByte then .ok []
  else do
    match ← decodeValue format bytes unpack with
    | .list .plain items => .ok items
    | v => .error (.recordsFileNotList (MessagePack.readKind v))

end Format

end DocView
