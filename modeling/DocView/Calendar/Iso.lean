import DocView.Calendar.Basic
import DocView.Text.Digit

/-!
# Dates and moments as text

The ISO 8601 forms `2024-03-01` and `2024-03-01T10:30:15.250000+02:00`.

## Reading

A text is a date, or a date, any one separating character and a time. The time is hours, or hours
and minutes, or all three, either with colons throughout or with none, and may end in a fraction
after a point or a comma, of which six digits count. The first sign in the time starts the
distance from universal time, which is read like a time. One stray character directly before that
sign is passed over, and so is anything after the sixth digit of a fraction; without a distance
nothing may be left over.

## Main definitions

* `Date.text`, `Moment.text` - the written forms
* `Moment.ofIso?` - the reader
-/

namespace DocView

/-! ### Writing -/

/-- A natural number in at least `width` digits. -/
def paddedNat (width n : Nat) : String :=
  let ds := Nat.toDigits 10 n
  String.ofList (List.replicate (width - ds.length) '0' ++ ds)

/-- The written form of a date. -/
def Date.text (d : Date) : String :=
  paddedNat 4 d.year ++ "-" ++ paddedNat 2 d.month ++ "-" ++ paddedNat 2 d.day

/-- A distance from universal time: hours and minutes always, seconds and microseconds only where
they are not zero. -/
def offsetText (offset : Int) : String :=
  let n := offset.natAbs
  let seconds := n / 1000000
  let micro := n % 1000000
  let rest := seconds % 60
  (if offset < 0 then "-" else "+") ++ paddedNat 2 (seconds / 3600) ++ ":"
    ++ paddedNat 2 (seconds / 60 % 60)
    ++ (if rest = 0 ∧ micro = 0 then "" else ":" ++ paddedNat 2 rest)
    ++ (if micro = 0 then "" else "." ++ paddedNat 6 micro)

/-- The written form of a moment, with the given separator between date and time. -/
def Moment.text (m : Moment) (separator : String) : String :=
  m.date.text ++ separator ++ paddedNat 2 m.hour ++ ":" ++ paddedNat 2 m.minute ++ ":"
    ++ paddedNat 2 m.second
    ++ (if m.micro = 0 then "" else "." ++ paddedNat 6 m.micro)
    ++ (match m.offset with
      | none => ""
      | some offset => offsetText offset)

namespace Iso

/-! ### Reading -/

/-- The value of an ASCII digit. -/
def asciiDigit? (c : Char) : Option Nat := if c.isDigit then some (c.toNat - 48) else none

/-- A number of exactly two digits, and what follows it. -/
def twoDigits? : List Char → Option (Nat × List Char)
  | a :: b :: rest => do
    let x ← asciiDigit? a
    let y ← asciiDigit? b
    some (10 * x + y, rest)
  | _ => none

/-- A number made of all the given digits. -/
def allDigits? (cs : List Char) : Option Nat :=
  cs.foldlM (fun n c => (asciiDigit? c).map (10 * n + ·)) 0

/-- A time of day or a distance: hours, minutes, seconds and microseconds, and whether a
character was left over. -/
structure Reading where
  hour : Nat
  minute : Nat
  second : Nat
  micro : Nat
  leftover : Bool
deriving DecidableEq, Repr

/-- The end of the text counts as a zero character, so a zero character counts as the end. -/
def isEnd (c : Char) : Bool := c.toNat == 0

/-- A fraction of a second in microseconds: at most six digits count, missing ones are zeros and
further digits are skipped. -/
def fraction? (cs : List Char) : Option (Nat × Bool) := do
  let counted := cs.take 6
  let n ← allDigits? counted
  let rest := (cs.drop 6).dropWhile Char.isDigit
  let leftover := match rest with
    | [] => false
    | c :: _ => !isEnd c
  some (n * Nat.pow 10 (6 - counted.length), leftover)

/-- The fields of a time that are still to be read, `n` of them, after the reversed `fields`.
`colons` says whether the fields are separated by colons, once that is known. -/
def fields? : Nat → Option Bool → List Nat → List Char → Option (List Nat × Nat × Bool)
  | 0, _, fields, rest => do
    let (micro, leftover) ← fraction? rest
    some (fields.reverse, micro, leftover)
  | n + 1, colons, fields, cs => do
    let (value, rest) ← twoDigits? cs
    let fields := value :: fields
    match rest with
    | [] => some (fields.reverse, 0, false)
    | c :: more =>
      let colons := colons.getD (c == ':')
      if more.isEmpty && c.toNat < 128 then some (fields.reverse, 0, !isEnd c)
      else if colons && c == ':' then fields? n (some colons) fields more
      else if c == '.' || c == ',' then fields? 0 (some colons) fields more
      else if colons then none
      else fields? n (some colons) fields rest

/-- Reads a time of day or a distance. -/
def reading? (cs : List Char) : Option Reading := do
  let (fields, micro, leftover) ← fields? 3 none [] cs
  some ⟨fields.getD 0 0, fields.getD 1 0, fields.getD 2 0, micro, leftover⟩

/-- Whether a character starts the distance from universal time. -/
def startsOffset (c : Char) : Bool := c == '+' || c == '-' || c == 'Z'

/-- A distance from universal time in microseconds; it has to stay below one day. A fraction of a
second counts by itself too: some readers take `+00:00:00.5` for universal time, for its whole
seconds are none, and that is not followed here. -/
def offset? : List Char → Option Int
  | 'Z' :: rest => match rest with
    | [] => some 0
    | c :: _ => if isEnd c then some 0 else none
  | sign :: rest => do
    let r ← reading? rest
    if r.leftover then none
    else
      let n : Nat := ((r.hour * 60 + r.minute) * 60 + r.second) * 1000000 + r.micro
      if n < 86400000000 then some (if sign = '-' then -(n : Int) else n) else none
  | [] => none

/-- The part of a moment after the separating character. -/
def time? (cs : List Char) : Option (Reading × Option Int) := do
  let clock := cs.takeWhile fun c => !startsOffset c
  let rest := cs.dropWhile fun c => !startsOffset c
  let r ← reading? clock
  if ¬(r.hour < 24 ∧ r.minute < 60 ∧ r.second < 60) then none
  else if rest.isEmpty then (if r.leftover then none else some (r, none))
  else do
    let offset ← offset? rest
    some (r, some offset)

/-- A date `YYYY-MM-DD` at the start of a text, and what follows it. -/
def date? : List Char → Option (Date × List Char)
  | a :: b :: c :: d :: '-' :: e :: f :: '-' :: g :: h :: rest => do
    let year ← allDigits? [a, b, c, d]
    let month ← allDigits? [e, f]
    let day ← allDigits? [g, h]
    let date ← Date.ofParts? year month day
    some (date, rest)
  | _ => none

end Iso

/-- Reads a date, or a date and a time. -/
def Moment.ofIso? (cs : List Char) : Option Moment := do
  let (date, rest) ← Iso.date? cs
  match rest with
  | [] => some ⟨date, 0, 0, 0, 0, none⟩
  | _ :: time =>
    let (r, offset) ← Iso.time? time
    some ⟨date, r.hour, r.minute, r.second, r.micro, offset⟩

end DocView
