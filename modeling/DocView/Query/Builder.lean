import DocView.Query.Basic
import DocView.Text.Occurrence
import DocView.Text.Split
import DocView.Value.Text

/-!
# Building queries

A query builder shows rows of a field, an operator and a text. Rows without a field or a value are
passed over; a row whose value fits no clause - a remainder without two integers, a size
without one - is dropped.

The rows of one field meet in the selector: clauses made of operators are merged, an operator that
is there already keeping its place and taking the new value, and anything else is replaced.

## Main definitions

* `Query.Row`, `Query.Row.entry?`
* `Query.buildSelector`
* `Query.Options`, `Query.Limits`, `Query.build`
-/

namespace DocView.Query

/-! ### Rows -/

/-- A row of the query builder. -/
structure Row where
  field : Value
  operator : String
  value : Value
deriving Repr, Inhabited

/-- The equality operator. -/
def equality : String := "$eq"

/-- The operator that a value names. A missing dollar sign is supplied, and no name at all means
equality. -/
def operatorName (v : Value) : String :=
  let s := Text.strip (v.orElse (.str "")).display
  if s = "" then equality
  else if Text.startsWith s "$" then s
  else "$" ++ s

/-- The operators that take lists. -/
def listOperators : List String := ["$in", "$nin", "$all"]

/-- The operators that take text. -/
def textOperators : List String := ["$regex", "$type"]

/-- The items that a value lists, separated by commas if it is not a list. -/
def listed : Value → List Value
  | .list _ items => items
  | v => (Text.commaItems v.text).map .str

/-- A text that reads as a number is that number. -/
def token : Value → Value
  | .str s => ((coerceNumber (.str s)).map Number.toValue).getD (.str s)
  | v => v

namespace Row

/-- A row from its object form. -/
def ofValue (v : Value) : Result Row := do
  let members ← v.members?
  .ok {
    field := (Value.member members "field").orElse (.str "")
    operator := operatorName (Value.member members "operator")
    value := (Members.get? members "value").getD (.str "") }

/-- Whether a row lacks a field or a value. -/
def isBlank (r : Row) : Bool := !r.field.truthy || r.value.isBlank

/-- A clause of one operator. -/
def clause (r : Row) (argument : Value) : Value := .record [(r.operator, argument)]

/-- What a row puts into the selector; `none` if its value fits no clause. -/
def entry? (r : Row) : Result (Option Value) :=
  if r.operator = equality then
    match r.value with
    | .object _ members => .ok (some (.record members))
    | v => .ok (some v)
  else if r.operator = "$exists" then
    .ok (some (r.clause (.bool ((coerceBoolean r.value).getD false))))
  else if listOperators.contains r.operator then
    .ok (some (r.clause (.array ((listed r.value).map token))))
  else if r.operator = "$mod" then do
    match ← (listed r.value).mapM coerceInteger with
    | [some divisor, some remainder] =>
      .ok (some (r.clause (.array [.int divisor, .int remainder])))
    | _ => .ok none
  else if r.operator = "$size" then do
    .ok ((← coerceInteger r.value).map fun n => r.clause (.int n))
  else if textOperators.contains r.operator then .ok (some (r.clause (.str r.value.text)))
  else .ok (some (r.clause (token r.value)))

end Row

/-! ### Selectors -/

/-- The members of a clause: a plain object, not empty, all of whose names are operators. -/
def clauseMembers? : Value → Option Members
  | .object .plain members =>
    if !members.isEmpty && (Members.names members).all fun name => Text.startsWith name "$" then
      some members
    else none
  | _ => none

/-- Puts an entry for a field into a selector. -/
def putEntry (selector : Members) (field : String) (entry : Value) : Members :=
  match (Members.get? selector field).bind clauseMembers?, clauseMembers? entry with
  | some old, some new => Members.insert selector field (.record (Members.overlay old new))
  | _, _ => Members.insert selector field entry

/-- The selector after one more row. -/
def addRow (selector : Members) (row : Row) : Result Members :=
  if row.isBlank then .ok selector
  else do
    match ← row.entry? with
    | none => .ok selector
    | some entry => .ok (putEntry selector (← Table.keyText row.field) entry)

/-- The selector after more rows, each from its object form and in order. -/
def addRows : Members → List Value → Result Members
  | selector, [] => .ok selector
  | selector, v :: rest => do addRows (← addRow selector (← Row.ofValue v)) rest

/-- The selector that rows build. -/
def buildSelector (rows : List Value) : Result Members := addRows [] rows

/-! ### Options -/

/-- The limit of a query that asks for none, and of one that asks for everything. -/
structure Limits where
  default : Value
  unbounded : Value
deriving Repr, Inhabited

/-- The limits that hold unless others are given. -/
def Limits.standard : Limits := ⟨Settings.defaultLimit, Settings.unboundedLimit⟩

/-- The limits that settings give. -/
def Limits.ofSettings (s : Settings) : Limits := ⟨s.query.defaultLimit, s.query.unboundedLimit⟩

/-- The words that ask for everything. -/
def unboundedWords : List String := ["unbounded", "none", "all", "nolimit", "no_limit"]

/-- The limit that a request stands for: null and some words ask for everything, and a request
that is no integer of at least one counts as none. -/
def Limits.resolve (limits : Limits) (requested : Value) : Result Value :=
  match requested with
  | .unset => .ok limits.default
  | .null => .ok limits.unbounded
  | .str s =>
    if unboundedWords.contains (Text.lower (Text.strip s)) then .ok limits.unbounded
    else limitOr (.str s) limits.default
  | v => limitOr v limits.default

/-- Fields, order and size of a query that is built. -/
structure Options where
  fields : List Value
  sort : List SortKey
  limit : Value
deriving Repr, Inhabited

/-- The sort keys that an option gives: one key, a list of them, or null. -/
def sortKeysOf (v : Value) : Result (List SortKey) := do
  let items ← match v with
    | .null => pure []
    | .object form members => pure [.object form members]
    | v => v.elements?
  .ok ((← items.mapM SortKey.ofValue).filter SortKey.isActive)

/-- Options from their object form; null gives none. -/
def Options.ofValue (v : Value) : Result Options :=
  match v with
  | .null => .ok ⟨[], [], .unset⟩
  | v => do
    let members ← v.members?
    let fields ← ((Value.member members "fields").orElse (.array [])).elements?
    .ok ⟨fields.filter Value.truthy, ← sortKeysOf (Value.member members "sort"),
      (Members.get? members "limit").getD .unset⟩

/-- Builds a query from the object forms of rows and options. -/
def build (limits : Limits) (rows options : Value) : Result Query := do
  let options ← Options.ofValue options
  let selector ← buildSelector (← (rows.orElse (.array [])).elements?)
  let limit ← limits.resolve options.limit
  let sort ← options.sort.mapM fun key => do .ok ((← Table.keyText key.field), key.direction)
  .ok (ofSelector selector limit options.fields sort)

end DocView.Query
