import DocView.FieldType
import DocView.Text.Case
import DocView.Text.Numeral

/-!
# Checking what a client sends

The parts of a body are checked one by one, and each that is wrong gives a complaint with its
place; all complaints are reported together. Clients may be a little careless with numbers and
truth values: a number may come as text, as a double without a fraction or as a truth value, and a
truth value as a number or a word. Text has to be text.

## Main definitions

* `Server.Complaint`, `Server.Checked`
* `Server.Check.integer`, `Server.Check.boolean`, `Server.Check.text`, `Server.Check.items`
* `Server.Check.member`
-/

namespace DocView.Server

/-- What is wrong with a part of a body. -/
inductive Wrong where
  | missing
  | malformedBody
  | notObject
  | notModel
  | notList
  | notText
  | textTooShort
  | notInteger
  | unreadableInteger
  | integerTooLong
  | notFinite
  | fraction
  | notBoolean
  | unreadableBoolean
  | tooSmall
  | tooLarge
  | unknownWord
deriving DecidableEq, Repr

/-- The word by which clients know what is wrong. -/
def Wrong.name : Wrong → String
  | .missing => "missing"
  | .malformedBody => "json_invalid"
  | .notObject => "dict_type"
  | .notModel => "model_attributes_type"
  | .notList => "list_type"
  | .notText => "string_type"
  | .textTooShort => "string_too_short"
  | .notInteger => "int_type"
  | .unreadableInteger => "int_parsing"
  | .integerTooLong => "int_parsing_size"
  | .notFinite => "finite_number"
  | .fraction => "int_from_float"
  | .notBoolean => "bool_type"
  | .unreadableBoolean => "bool_parsing"
  | .tooSmall => "greater_than_equal"
  | .tooLarge => "less_than_equal"
  | .unknownWord => "value_error"

/-- A step on the way to a part of a body. -/
inductive Step where
  | name (s : String)
  | index (n : Nat)
deriving DecidableEq, Repr

/-- The way to a part of a body. -/
abbrev Place := List Step

/-- Something wrong at a place, with the part that it is about. -/
structure Complaint where
  wrong : Wrong
  place : Place
  part : Value
deriving Repr

/-- A part of a body, or all that is wrong with it. -/
abbrev Checked := Except (List Complaint)

/-- A checked function applied to a checked part: what is wrong with either is wrong. -/
def Checked.app {α β : Type} (f : Checked (α → β)) (x : Checked α) : Checked β :=
  match f, x with
  | .ok f, .ok x => .ok (f x)
  | .ok _, .error complaints => .error complaints
  | .error complaints, .ok _ => .error complaints
  | .error first, .error second => .error (first ++ second)

/-- A check of a part at a place. -/
abbrev Check (α : Type) := Place → Value → Checked α

namespace Check

/-- A part that is wrong. -/
def fail {α : Type} (wrong : Wrong) (place : Place) (part : Value) : Checked α :=
  .error [⟨wrong, place, part⟩]

/-- Any value. -/
def any : Check Value := fun _ v => .ok v

/-! ### Text -/

/-- A text. -/
def text : Check String := fun place v =>
  match v with
  | .str s => .ok s
  | v => fail .notText place v

/-- Null, or something that passes a check. -/
def optional {α : Type} (check : Check α) : Check (Option α) := fun place v =>
  match v with
  | .null => .ok none
  | v => (check place v).map some

/-- The name of a field type. -/
def fieldTypeName : Check String := fun place v => do
  let s ← text place v
  if FieldType.all.any fun t => t.name == s then .ok s else fail .unknownWord place v

/-! ### Integers -/

/-- Whether a character is white space to clients' numbers. -/
def isSpace (c : Char) : Bool := Text.isBlank c && !(28 ≤ c.toNat && c.toNat ≤ 31)

/-- Characters without white space at their ends. -/
def trim (cs : List Char) : List Char :=
  ((cs.dropWhile isSpace).reverse.dropWhile isSpace).reverse

/-- The number of a run of plain digits, with single underscores between them. The flag says
whether a digit came just before. -/
def digits? (n : Nat) : Bool → List Char → Option Nat
  | afterDigit, [] => if afterDigit then some n else none
  | afterDigit, c :: rest =>
    if c = '_' then (if afterDigit then digits? n false rest else none)
    else if c.isDigit then digits? (10 * n + (c.toNat - 48)) true rest
    else none

/-- The characters before a point that only zeros follow; `none` if something else follows it. -/
def withoutZeroFraction? (cs : List Char) : Option (List Char) :=
  match cs.dropWhile (· != '.') with
  | [] => some cs
  | _ :: fraction => if fraction.all (· == '0') then some (cs.takeWhile (· != '.')) else none

/-- The integer that a text shows. -/
def integerOfText? (s : String) : Option Int := do
  let (negative, body) := Text.takeSign (trim s.toList)
  let n ← digits? 0 false (← withoutZeroFraction? body)
  some (Text.signed negative n)

/-- Whether a double lies strictly between the ends of the 64-bit integers. -/
def isShort (x : Binary64) : Bool := x.truncate.natAbs < Nat.pow 2 63

/-- An integer: a number without a fraction, a text that shows one, or a truth value. -/
def integer : Check Int := fun place v =>
  match v with
  | .int n => .ok n
  | .bool b => .ok (if b then 1 else 0)
  | .str s =>
    if Text.maxDigits < s.utf8ByteSize then fail .integerTooLong place v
    else match integerOfText? s with
      | some n => .ok n
      | none => fail .unreadableInteger place v
  | .float x =>
    if !x.isFinite then fail .notFinite place v
    else if !x.isIntegral then fail .fraction place v
    else if !isShort x then fail .integerTooLong place v
    else .ok x.truncate
  | v => fail .notInteger place v

/-- An integer of at least `low`. -/
def atLeast (low : Int) : Check Int := fun place v => do
  let n ← integer place v
  if n < low then fail .tooSmall place v else .ok n

/-- An integer of at least `low` and at most `high`. -/
def between (low high : Int) : Check Int := fun place v => do
  let n ← atLeast low place v
  if high < n then fail .tooLarge place v else .ok n

/-- An integer or a text. A text stays one whatever it shows. -/
def integerOrText : Check Value := fun place v =>
  match v with
  | .str s => .ok (.str s)
  | v =>
    match integer (place ++ [.name "int"]) v with
    | .ok n => .ok (.int n)
    | .error complaints => .error (complaints ++ [⟨.notText, place ++ [.name "str"], v⟩])

/-! ### Truth values -/

/-- The words for true. -/
def yesWords : List String := ["1", "t", "true", "y", "yes", "on"]

/-- The words for false. -/
def noWords : List String := ["0", "f", "false", "n", "no", "off"]

/-- The truth value that an integer stands for. -/
def booleanOfInteger? (n : Int) : Option Bool :=
  if n = 1 then some true else if n = 0 then some false else none

/-- The truth value that a word stands for, in any case. -/
def booleanOfText? (s : String) : Option Bool :=
  let word := String.ofList (s.toList.map Char.toLower)
  if yesWords.contains word then some true else if noWords.contains word then some false else none

/-- A truth value, one or zero, or a word. -/
def boolean : Check Bool := fun place v =>
  let read (found : Option Bool) : Checked Bool :=
    match found with
    | some b => .ok b
    | none => fail .unreadableBoolean place v
  match v with
  | .bool b => .ok b
  | .str s => read (booleanOfText? s)
  | .int n => if n.natAbs < Nat.pow 2 63 then read (booleanOfInteger? n) else fail .notBoolean place v
  | .float x =>
    if x.isIntegral && isShort x then read (booleanOfInteger? x.truncate)
    else fail .notBoolean place v
  | v => fail .notBoolean place v

/-! ### Lists and objects -/

/-- Items that each pass a check, counted from an index. -/
def itemsFrom {α : Type} (check : Check α) (place : Place) : Nat → List Value → Checked (List α)
  | _, [] => .ok []
  | index, v :: rest =>
    Checked.app ((check (place ++ [.index index]) v).map List.cons)
      (itemsFrom check place (index + 1) rest)

/-- A list of items that each pass a check. -/
def items {α : Type} (check : Check α) : Check (List α) := fun place v =>
  match v with
  | .list _ vs => itemsFrom check place 0 vs
  | v => fail .notList place v

/-- Any object. -/
def object : Check Members := fun place v =>
  match v with
  | .object _ members => .ok members
  | v => fail .notObject place v

/-- An object whose members pass a check together. -/
def model {α : Type} (check : Place → Members → Checked α) : Check α := fun place v =>
  match v with
  | .object _ members => check place members
  | v => fail .notModel place v

/-- A member that passes a check, or the default if there is none. -/
def member {α : Type} (check : Check α) (name : String) (default : α) (place : Place)
    (members : Members) : Checked α :=
  match Members.get? members name with
  | some v => check (place ++ [.name name]) v
  | none => .ok default

/-- A member that has to be there. If it is not, the complaint is about the whole object. -/
def required {α : Type} (check : Check α) (name : String) (place : Place) (members : Members) :
    Checked α :=
  match Members.get? members name with
  | some v => check (place ++ [.name name]) v
  | none => fail .missing (place ++ [.name name]) (.record members)

end Check

end DocView.Server
