import DocView.Calendar.Iso
import DocView.Error

/-!
# Plain scalars

What a text without quotes means in a configuration file: null, a truth value, an integer in
decimal, binary, octal, hexadecimal or by parts of sixty, a double, a date or a moment, and
otherwise itself. Underscores between the digits of a number are ignored; a double needs a point,
and its exponent a sign.

## Main definitions

* `Yaml.scalarValue`
-/

namespace DocView.Yaml

/-- The texts that mean null. -/
def nullTexts : List String := ["", "~", "null", "Null", "NULL"]

/-- The texts that mean true. -/
def trueTexts : List String :=
  ["yes", "Yes", "YES", "true", "True", "TRUE", "on", "On", "ON"]

/-- The texts that mean false. -/
def falseTexts : List String :=
  ["no", "No", "NO", "false", "False", "FALSE", "off", "Off", "OFF"]

/-! ### Numbers -/

/-- A sign taken off a text; the flag says whether it was a minus. -/
def takeSign : List Char → Bool × List Char
  | '-' :: rest => (true, rest)
  | '+' :: rest => (false, rest)
  | cs => (false, cs)

/-- Whether a character is a digit of a base up to ten, or an underscore. -/
def isDigitOf (base : Nat) (c : Char) : Bool := c == '_' || (c.isDigit && c.toNat < 48 + base)

/-- Whether a character is a hexadecimal digit or an underscore. -/
def isHexDigit (c : Char) : Bool :=
  c == '_' || c.isDigit || ('a' ≤ c && c ≤ 'f') || ('A' ≤ c && c ≤ 'F')

/-- The value of a digit. -/
def digitValue (c : Char) : Nat :=
  if c.isDigit then c.toNat - 48 else if c.isLower then c.toNat - 87 else c.toNat - 55

/-- The value of digits in a base, underscores left out; there has to be a digit. -/
def natural (base : Nat) (cs : List Char) : Result Nat :=
  let digits := cs.filter (· != '_')
  if digits.isEmpty then .error (.malformedInteger (String.ofList cs))
  else .ok (digits.foldl (fun n c => base * n + digitValue c) 0)

/-- Whether a part counts up to fifty-nine: one digit, or two of which the first is at most five. -/
def isSixtieth : List Char → Bool
  | [a] => a.isDigit
  | [a, b] => a.isDigit && a ≤ '5' && b.isDigit
  | _ => false

/-- Characters cut at colons. -/
def colonParts : List Char → List (List Char)
  | [] => [[]]
  | c :: rest =>
    match colonParts rest with
    | [] => [[c]]
    | part :: parts => if c = ':' then [] :: part :: parts else (c :: part) :: parts

/-- An unsigned integer; `none` if the text is none. -/
def unsigned? (cs : List Char) : Option (Result Nat) :=
  match cs with
  | '0' :: 'b' :: c :: rest =>
    if (c :: rest).all (isDigitOf 2) then some (natural 2 (c :: rest)) else none
  | '0' :: 'x' :: c :: rest =>
    if (c :: rest).all isHexDigit then some (natural 16 (c :: rest)) else none
  | ['0'] => some (.ok 0)
  | '0' :: rest => if rest.all (isDigitOf 8) then some (natural 8 ('0' :: rest)) else none
  | c :: rest =>
    if !c.isDigit then none
    else match colonParts (c :: rest) with
      | [digits] => if digits.all (isDigitOf 10) then some (natural 10 digits) else none
      | first :: parts =>
        if first.all (isDigitOf 10) && parts.all isSixtieth then
          some (do
            let ns ← (first :: parts).mapM (natural 10)
            .ok (ns.foldl (fun n part => 60 * n + part) 0))
        else none
      | [] => none
  | [] => none

/-- An integer; `none` if the text is none. -/
def integer? (cs : List Char) : Option (Result Value) :=
  let (negative, body) := takeSign cs
  (unsigned? body).map fun n => n.map fun n => .int (if negative then -(n : Int) else n)

/-- The exponent of a double: nothing, or a letter, a sign and digits. -/
def exponent? : List Char → Option Int
  | [] => some 0
  | c :: sign :: rest =>
    if (c == 'e' || c == 'E') && (sign == '-' || sign == '+') && !rest.isEmpty
        && rest.all Char.isDigit then
      let n : Nat := rest.foldl (fun n c => 10 * n + digitValue c) 0
      some (if sign = '-' then -(n : Int) else n)
    else none
  | _ => none

/-- A double: digits with a point, which may come first if there is no sign. -/
def double? (cs : List Char) : Option Binary64 :=
  let (negative, body) := takeSign cs
  let signed := body.length != cs.length
  let word := String.ofList body
  if word = ".inf" ∨ word = ".Inf" ∨ word = ".INF" then some (.infinity negative)
  else if !signed && (word = ".nan" || word = ".NaN" || word = ".NAN") then some .nan
  else
    let whole := body.takeWhile (isDigitOf 10)
    match body.dropWhile (isDigitOf 10) with
    | '.' :: rest =>
      let fraction := rest.takeWhile (isDigitOf 10)
      let startsWithDigit (ds : List Char) := ds.head?.any Char.isDigit
      if startsWithDigit whole || (whole.isEmpty && !signed && startsWithDigit fraction) then
        (exponent? (rest.dropWhile (isDigitOf 10))).map fun exponent =>
          let ds := (whole ++ fraction).filter (· != '_')
          let places := (fraction.filter (· != '_')).length
          .ofDecimal negative (ds.foldl (fun n c => 10 * n + digitValue c) 0)
            (exponent - places)
      else none
    | _ => none

/-! ### Dates -/

/-- A number of exactly so many digits at the start of a text. -/
def fixed? (width : Nat) (cs : List Char) : Option (Nat × List Char) :=
  let ds := cs.take width
  if ds.length = width ∧ ds.all Char.isDigit then
    some (ds.foldl (fun n c => 10 * n + digitValue c) 0, cs.drop width)
  else none

/-- A number of one or two digits at the start of a text. -/
def short? (cs : List Char) : Option (Nat × List Char) := (fixed? 2 cs).or (fixed? 1 cs)

/-- A character at the start of a text. -/
def after? (c : Char) : List Char → Option (List Char)
  | d :: rest => if d = c then some rest else none
  | [] => none

/-- Blanks at the start of a text are left out. -/
def skipBlanks (cs : List Char) : List Char := cs.dropWhile fun c => c == ' ' || c == '\t'

/-- A distance from universal time in microseconds: nothing, `Z`, or a sign and hours with
minutes. -/
def zone? (cs : List Char) : Option (Option Int) :=
  match skipBlanks cs with
  | [] => if cs.isEmpty then some none else none
  | ['Z'] => some (some 0)
  | sign :: rest =>
    if sign = '-' ∨ sign = '+' then do
      let (hours, rest) ← short? rest
      let minutes ← match rest with
        | [] => some 0
        | ':' :: rest => (fixed? 2 rest).bind fun (n, rest) => if rest.isEmpty then some n else none
        | _ => none
      let micros : Int := (hours * 60 + minutes) * 60000000
      some (some (if sign = '-' then -micros else micros))
    else none

/-- A date and time in words of numbers, before the calendar is asked. -/
def timestamp? (cs : List Char) : Option (Result Value) := do
  let (year, rest) ← fixed? 4 cs
  let (month, rest) ← (after? '-' rest).bind short?
  let (day, rest) ← (after? '-' rest).bind short?
  let date : Result Date := match Date.ofParts? year month day with
    | some d => .ok d
    | none => .error (.badValue "day is out of range for month")
  if rest.isEmpty then
    if cs.length = 10 then some (date.map Value.date) else none
  else
    let rest ← match rest with
      | 'T' :: rest => some rest
      | 't' :: rest => some rest
      | c :: _ => if c = ' ' ∨ c = '\t' then some (skipBlanks rest) else none
      | [] => none
    let (hour, rest) ← short? rest
    let (minute, rest) ← (after? ':' rest).bind (fixed? 2)
    let (second, rest) ← (after? ':' rest).bind (fixed? 2)
    let (fraction, rest) := match rest with
      | '.' :: rest => (rest.takeWhile Char.isDigit, rest.dropWhile Char.isDigit)
      | rest => ([], rest)
    let offset ← zone? rest
    let micro := ((fraction ++ List.replicate 6 '0').take 6).foldl
      (fun n c => 10 * n + digitValue c) 0
    some (do
      let date ← date
      if hour < 24 && minute < 60 && second < 60 then
        .ok (.moment ⟨date, hour, minute, second, micro, offset⟩)
      else .error (.badValue "time is out of range"))

/-! ### All together -/

/-- The value that a text without quotes means. -/
def scalarValue (s : String) : Result Value :=
  let cs := s.toList
  if trueTexts.contains s then .ok (.bool true)
  else if falseTexts.contains s then .ok (.bool false)
  else if nullTexts.contains s then .ok .null
  else match double? cs with
    | some x => .ok (.float x)
    | none =>
      match integer? cs with
      | some n => n
      | none => (timestamp? cs).getD (.ok (.str s))

end DocView.Yaml
