import DocView.Json.Reader
import DocView.Text.Case
import DocView.Text.Split
import DocView.Text.Utf8

/-!
# Requests

What a client asks: a method, an address and a body. Of the address only the path counts here. Its
points are resolved first, then its percent escapes - twice, by the client that reads the address
and by the server that receives it, so that an escaped percent sign is not safe from them.

## Main definitions

* `Server.Request`, `Server.Body`
* `Server.pathOf` - the path of an address
* `Server.Body.read`
-/

namespace DocView.Server

/-! ### Paths -/

/-- The value of a hexadecimal digit. -/
def hexDigit? (b : UInt8) : Option Nat := Json.hexDigit? (Char.ofNat b.toNat)

/-- Bytes with percent escapes resolved. A percent sign that starts none stays. -/
def unescapeBytes : List UInt8 → List UInt8
  | [] => []
  | [a] => [a]
  | [a, b] => [a, b]
  | a :: b :: c :: rest =>
    if a.toNat = 0x25 then
      match hexDigit? b, hexDigit? c with
      | some high, some low => UInt8.ofNat (16 * high + low) :: unescapeBytes rest
      | _, _ => a :: unescapeBytes (b :: c :: rest)
    else a :: unescapeBytes (b :: c :: rest)

/-- A text with percent escapes resolved. -/
def unescape (s : String) : String := Utf8.repair (unescapeBytes (Utf8.encode s))

/-- Names of a path without points: one stands for the place itself, two lead back by one name,
though never above the top. `done` are the names so far, the last one first. -/
def resolvePoints (done : List String) : List String → List String
  | [] => done.reverse
  | "." :: rest => resolvePoints done rest
  | ".." :: rest =>
    match done with
    | [] | [""] => resolvePoints done rest
    | _ :: above => resolvePoints above rest
  | name :: rest => resolvePoints (name :: done) rest

/-- The part of an address before its query and fragment, as a path from the top. -/
def rawPath (address : String) : String :=
  let cs := address.toList.takeWhile fun c => c != '?' && c != '#'
  String.ofList ('/' :: cs.dropWhile (· == '/'))

/-- The path of an address. -/
def pathOf (address : String) : String :=
  unescape (unescape ("/".intercalate (resolvePoints [] (Text.parts '/' (rawPath address)))))

/-! ### Bodies -/

/-- What comes with a request. -/
inductive Body where
  | empty
  | value (v : Value)
  | text (s : String)
deriving Repr, Inhabited

/-- A text without a mark of byte order at its start. -/
def withoutMark (s : String) : String :=
  match s.toList with
  | '\ufeff' :: rest => String.ofList rest
  | _ => s

/-- The value of a body; none if there is nothing in it, or null. A body may be nested to any
depth; readers that recurse may give up on one that is nested many hundreds of times. -/
def Body.read : Body → Except Json.ReadError (Option Value)
  | .empty => .ok none
  | .value .null => .ok none
  | .value v => .ok (some v)
  | .text s =>
    if s = "" then .ok none
    else match Json.read (withoutMark s) with
      | .ok .null => .ok none
      | .ok v => .ok (some v)
      | .error e => .error e

/-- A request. -/
structure Request where
  method : String
  path : String
  body : Body
deriving Repr, Inhabited

/-- The request of a method, in any case, for an address. -/
def Request.of (method address : String) (body : Body) : Request :=
  ⟨Text.upper method, pathOf address, body⟩

end DocView.Server
