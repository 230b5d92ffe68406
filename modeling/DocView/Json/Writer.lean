import DocView.Text.Numeral
import DocView.Value.Literal

/-!
# Writing JSON

Values are written as JSON in ASCII: every other character is escaped as `\uXXXX`, those beyond
the basic plane as a pair of surrogates. Integers are written in full and doubles in their
shortest form; NaN and the infinities have names that JSON does not know.

Null, truth values, numbers, texts, lists of both forms and plain objects have a JSON form. A
value of any other kind is *foreign*. `render` writes a foreign value as the text that displays
it, and `write?` refuses it. It also refuses an integer of more than 4300 digits, which could not
be read again.

## Main definitions

* `Json.Style` - separators and indentation
* `Json.render`, `Json.unwritable?`, `Json.write?`
-/

namespace DocView.Json

/-! ### Layout -/

/-- Separators and, if lines are broken, the width of an indentation step. -/
structure Style where
  comma : String
  colon : String
  step : Option Nat

/-- A blank after every comma and colon. -/
def Style.spaced : Style := ⟨", ", ": ", none⟩

/-- No blanks. -/
def Style.compact : Style := ⟨",", ":", none⟩

/-- One item a line, indented by two. -/
def Style.indented : Style := ⟨",", ": ", some 2⟩

/-- The break before an item at a depth. -/
def Style.lineBreak (style : Style) (depth : Nat) : String :=
  match style.step with
  | none => ""
  | some n => String.ofList ('\n' :: List.replicate (n * depth) ' ')

/-- Parts between an opening and a closing bracket, laid out for a depth. -/
def Style.enclose (style : Style) (depth : Nat) (opening closing : String)
    (parts : List String) : String :=
  if parts.isEmpty then opening ++ closing
  else
    let inner := style.lineBreak (depth + 1)
    opening ++ inner ++ (style.comma ++ inner).intercalate parts ++ style.lineBreak depth
      ++ closing

/-! ### Text -/

/-- A code unit of sixteen bits as an escape. -/
def unitEscape (n : Nat) : List Char := '\\' :: 'u' :: Text.paddedHex 4 n

/-- The escapes written with one letter. -/
def letterEscape? (c : Char) : Option Char :=
  if c = '"' ∨ c = '\\' then some c
  else if c = '\n' then some 'n'
  else if c = '\r' then some 'r'
  else if c = '\t' then some 't'
  else if c.toNat = 12 then some 'f'
  else if c.toNat = 8 then some 'b'
  else none

/-- A character inside a JSON text. -/
def escapedChar (c : Char) : List Char :=
  match letterEscape? c with
  | some letter => ['\\', letter]
  | none =>
    let n := c.toNat
    if 32 ≤ n ∧ n < 127 then [c]
    else if n < 0x10000 then unitEscape n
    else
      unitEscape (0xD800 + (n - 0x10000) / 0x400) ++ unitEscape (0xDC00 + (n - 0x10000) % 0x400)

/-- A text in quotes. -/
def quoted (s : String) : String :=
  String.ofList ('"' :: s.toList.flatMap escapedChar ++ ['"'])

/-- A double. -/
def floatText (x : Binary64) : String :=
  if x.isNaN then "NaN"
  else if x.isInfinite then (if x.negative then "-Infinity" else "Infinity")
  else x.text

/-! ### Values -/

mutual

/-- Writes a value that starts at a depth of indentation. A foreign value becomes the text that
displays it. -/
def renderAt (style : Style) (depth : Nat) : Value → String
  | .null => "null"
  | .bool b => if b then "true" else "false"
  | .int n => intText n
  | .float x => floatText x
  | .str s => quoted s
  | .list _ items => style.enclose depth "[" "]" (renderItems style (depth + 1) items)
  | .object .plain members =>
    style.enclose depth "\x7b" "\x7d" (renderMembers style (depth + 1) members)
  | v => quoted v.display

/-- Writes the items of a list. -/
def renderItems (style : Style) (depth : Nat) : List Value → List String
  | [] => []
  | v :: rest => renderAt style depth v :: renderItems style depth rest

/-- Writes the members of an object. -/
def renderMembers (style : Style) (depth : Nat) : List (String × Value) → List String
  | [] => []
  | (name, v) :: rest =>
    (quoted name ++ style.colon ++ renderAt style depth v) :: renderMembers style depth rest

end

/-- Writes a value. -/
def render (style : Style) (v : Value) : String := renderAt style 0 v

/-- Whether an integer has more digits than an integer text may have. -/
def isTooLong (n : Int) : Bool := Text.maxDigits < (Nat.toDigits 10 n.natAbs).length

mutual

/-- The first value in writing order that cannot be written: a foreign one or an integer that is
too long. -/
def unwritable? : Value → Option Value
  | .list _ items => unwritableItem? items
  | .object .plain members => unwritableMember? members
  | .int n => if isTooLong n then some (.int n) else none
  | .null | .bool _ | .float _ | .str _ => none
  | v => some v

/-- The first value in a list that cannot be written. -/
def unwritableItem? : List Value → Option Value
  | [] => none
  | v :: rest => (unwritable? v).or (unwritableItem? rest)

/-- The first value in an object that cannot be written. -/
def unwritableMember? : List (String × Value) → Option Value
  | [] => none
  | (_, v) :: rest => (unwritable? v).or (unwritableMember? rest)

end

/-- Writes a value if all of it can be written; otherwise answers with the first part that
cannot. -/
def write? (style : Style) (v : Value) : Except Value String :=
  match unwritable? v with
  | some part => .error part
  | none => .ok (render style v)

mutual

/-- Whether a NaN or an infinity occurs in a value. -/
def hasNonFinite : Value → Bool
  | .float x => !x.isFinite
  | .list _ items => anyNonFinite items
  | .object _ members => anyMemberNonFinite members
  | _ => false

/-- Whether a NaN or an infinity occurs in a list. -/
def anyNonFinite : List Value → Bool
  | [] => false
  | v :: rest => hasNonFinite v || anyNonFinite rest

/-- Whether a NaN or an infinity occurs in an object. -/
def anyMemberNonFinite : List (String × Value) → Bool
  | [] => false
  | (_, v) :: rest => hasNonFinite v || anyMemberNonFinite rest

end

end DocView.Json
