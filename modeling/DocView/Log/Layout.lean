import DocView.Log.Level
import DocView.Text.Letter
import DocView.Value.Text

/-!
# Layouts of messages

A layout is a text with references to the fields of a record, such as `%(levelname)-8s`: the name
of a field in parentheses, flags, a width, a precision and a conversion. A percent sign of its own
is written twice.

A layout has to hold at least one reference; that is checked when it is chosen. Whether its
references can be filled in shows only when a record is written: if one of them cannot, the record
is not written at all.

## Main definitions

* `Log.Record`, `Log.Layout`
* `Log.Layout.ofValue`, `Log.Layout.write?`
-/

namespace DocView.Log

/-- A message with the place and the time at which it was given. -/
structure Record where
  time : String
  logger : String
  level : Int
  message : String
deriving DecidableEq, Repr, Inhabited

/-- What a field of a record holds. -/
inductive Content where
  | text (s : String)
  | number (n : Int)
deriving DecidableEq, Repr

/-- The fields of a record by name. -/
def Record.content? (r : Record) (name : String) : Option Content :=
  List.lookup name
    [("asctime", .text r.time), ("name", .text r.logger), ("levelname", .text (levelName r.level)),
     ("levelno", .number r.level), ("message", .text r.message), ("msg", .text r.message)]

/-! ### References -/

/-- How a field is placed in a line. -/
structure Placement where
  flags : List Char
  width : Nat
  precision : Option Nat
  conversion : Char
deriving DecidableEq, Repr

/-- A piece of a layout. -/
inductive Piece where
  | char (c : Char)
  | field (name : String) (placement : Placement)
deriving DecidableEq, Repr

/-- Whether a character is a flag. -/
def isFlag (c : Char) : Bool := ['#', '0', '+', ' ', '-'].contains c

/-- A decimal number at the start of characters; no digits are zero. -/
def takeNumber (cs : List Char) : Nat × List Char :=
  ((cs.takeWhile Char.isDigit).foldl (fun n c => 10 * n + (c.toNat - 48)) 0,
    cs.dropWhile Char.isDigit)

/-- The precision at the start of characters. -/
def takePrecision : List Char → Option Nat × List Char
  | '.' :: rest => let (n, rest) := takeNumber rest; (some n, rest)
  | cs => (none, cs)

/-- The name of a field at the start of characters, in parentheses. -/
def takeName? : List Char → Option (String × List Char)
  | '(' :: rest =>
    match rest.dropWhile (· != ')') with
    | _ :: after => some (String.ofList (rest.takeWhile (· != ')')), after)
    | [] => none
  | _ => none

/-- The placement at the start of characters. -/
def takePlacement? (cs : List Char) : Option (Placement × List Char) :=
  let (width, rest) := takeNumber (cs.dropWhile isFlag)
  let (precision, rest) := takePrecision rest
  match rest with
  | conversion :: rest => some (⟨cs.takeWhile isFlag, width, precision, conversion⟩, rest)
  | [] => none

/-- The piece that follows a percent sign. -/
def takePiece? : List Char → Option (Piece × List Char)
  | '%' :: rest => some (.char '%', rest)
  | cs => do
    let (name, rest) ← takeName? cs
    let (placement, rest) ← takePlacement? rest
    some (.field name placement, rest)

/-- The pieces of a layout of at most so many characters; `none` if it is malformed. -/
def piecesUpTo? : Nat → List Char → Option (List Piece)
  | _, [] => some []
  | 0, _ :: _ => none
  | fuel + 1, '%' :: rest => do
    let (piece, rest) ← takePiece? rest
    some (piece :: (← piecesUpTo? fuel rest))
  | fuel + 1, c :: rest => do some (.char c :: (← piecesUpTo? fuel rest))

/-! ### Writing -/

/-- A text brought to a width. -/
def Placement.pad (p : Placement) (s : String) : String :=
  let missing := String.ofList (List.replicate (p.width - s.length) ' ')
  if p.flags.contains '-' then s ++ missing else missing ++ s

/-- The sign that stands before a number. -/
def Placement.sign (p : Placement) (n : Int) : String :=
  if n < 0 then "-" else if p.flags.contains '+' then "+" else if p.flags.contains ' ' then " "
  else ""

/-- A number in a base brought to a width: with the mark of the base and with zeros if the flags
ask for them. -/
def Placement.digits (p : Placement) (base : Nat) (mark : String) (n : Int) : String :=
  let start := p.sign n ++ if p.flags.contains '#' then mark else ""
  let digits := String.ofList (Nat.toDigits base n.natAbs)
  let width :=
    if p.flags.contains '0' && !p.flags.contains '-' then p.width - start.length else 0
  let width := max width (p.precision.getD 0)
  p.pad (start ++ String.ofList (List.replicate (width - digits.length) '0') ++ digits)

/-- A text cut to the precision and brought to the width. -/
def Placement.text (p : Placement) (s : String) : String :=
  p.pad (match p.precision with
    | some n => String.ofList (s.toList.take n)
    | none => s)

/-- A field written in its place; `none` if the conversion does not suit it. -/
def Placement.write? (p : Placement) (content : Content) : Option String :=
  match p.conversion, content with
  | 's', .text s => some (p.text s)
  | 's', .number n => some (p.text (intText n))
  | 'r', .text s => some (p.text (Text.quoted s))
  | 'r', .number n => some (p.text (intText n))
  | 'd', .number n | 'i', .number n | 'u', .number n => some (p.digits 10 "" n)
  | 'x', .number n => some (p.digits 16 "0x" n)
  | 'X', .number n => some (Text.upper (p.digits 16 "0x" n))
  | 'o', .number n => some (p.digits 8 "0o" n)
  | _, _ => none

/-- A piece filled in from a record. -/
def Piece.write? (r : Record) : Piece → Option String
  | .char c => some c.toString
  | .field name placement => do placement.write? (← r.content? name)

/-- A layout of messages. -/
structure Layout where
  text : String
deriving DecidableEq, Repr, Inhabited

namespace Layout

/-- The layout that is used unless another is chosen. -/
def default : Layout := ⟨"%(asctime)s - %(name)s - %(levelname)s - %(message)s"⟩

/-- The line that a record makes; `none` if some reference cannot be filled in. -/
def write? (layout : Layout) (r : Record) : Option String := do
  let cs := layout.text.toList
  some (String.join (← (← piecesUpTo? cs.length cs).mapM (Piece.write? r)))

/-! ### Choosing a layout -/

/-- Whether a character may be part of a field's name. -/
def isNameChar (c : Char) : Bool := Text.isLetterOrNumber c || c == '_'

/-- The conversions that a reference may ask for, in either case. -/
def conversions : List Char := "diouxefgcrsa%".toList

/-- The characters after a number or an asterisk. -/
def skipNumber : List Char → List Char
  | '*' :: rest => rest
  | cs => cs.dropWhile Text.isDigit

/-- The characters after a precision, which has to be a number or an asterisk. -/
def skipPrecision : List Char → List Char
  | '.' :: c :: rest =>
    if c = '*' || Text.isDigit c then skipNumber (c :: rest) else '.' :: c :: rest
  | cs => cs

/-- Whether characters start with a reference. -/
def startsReference (cs : List Char) : Bool :=
  match cs with
  | '%' :: '(' :: rest =>
    match rest.takeWhile isNameChar, rest.dropWhile isNameChar with
    | _ :: _, ')' :: rest =>
      match skipPrecision (skipNumber (rest.dropWhile isFlag)) with
      | conversion :: _ => conversions.contains conversion.toLower
      | [] => false
    | _, _ => false
  | _ => false

/-- Whether characters hold a reference. -/
def hasReference : List Char → Bool
  | [] => false
  | c :: rest => startsReference (c :: rest) || hasReference rest

/-- The layout that a value asks for; one that counts as absent asks for the default. -/
def ofValue (v : Value) : Result Layout :=
  if !v.truthy then .ok default
  else match v with
    | .str s =>
      if hasReference s.toList then .ok ⟨s⟩
      else .error (.badValue ("Invalid format '" ++ s ++ "' for '%' style"))
    | v => .error (.badArgument
        ("expected string or bytes-like object, got '" ++ v.kindName ++ "'"))

end Layout

end DocView.Log
