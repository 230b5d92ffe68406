import DocView.Calendar.Basic

/-!
# Values

Documents have no schema, so a field may hold any of the values below. They are the values of
JSON, with integers of any size kept apart from doubles, and a few more that a program puts into
conditions: dates and moments, byte strings and the marker `unset` for a value that was never
given.

## Plain and frozen containers

A list or an object is *plain* or *frozen*; frozen ones make up the read-only selector of a query.
The form of an object never matters for equality, the form of a list always does.

## Order of members

An object keeps its members in the order in which their names first came, each name once. This is
a convention of the functions that build objects, `Members.insert` above all, and not part of the
type: an association list in which a name comes twice reads as its first entry.

## Main definitions

* `Value`, `Form`
* `Members.get?`, `Members.insert`, `Members.ofEntries`
* `Value.truthy`, `Value.isBlank`, `Value.kindName`
-/

namespace DocView

/-- Whether a container may be changed by its holder. -/
inductive Form where
  | plain
  | frozen
deriving DecidableEq, Repr, Inhabited

/-- A value of a field, a condition or a query. -/
inductive Value where
  | null
  | unset
  | bool (b : Bool)
  | int (n : Int)
  | float (x : Binary64)
  | str (s : String)
  | bytes (bs : List UInt8)
  | date (d : Date)
  | moment (m : Moment)
  | list (form : Form) (items : List Value)
  | object (form : Form) (members : List (String × Value))
deriving Repr, Inhabited

/-- The members of an object in order. -/
abbrev Members := List (String × Value)

namespace Members

/-- The value of a name. -/
def get? (members : Members) (name : String) : Option Value := List.lookup name members

/-- Whether there is a member of this name. -/
def has (members : Members) (name : String) : Bool := (members.get? name).isSome

/-- The names in order. -/
def names (members : Members) : List String := members.map (·.1)

/-- Sets a name: in place if it is there already, at the end otherwise. -/
def insert : Members → String → Value → Members
  | [], name, value => [(name, value)]
  | (n, v) :: rest, name, value =>
    if n = name then (n, value) :: rest else (n, v) :: insert rest name value

/-- The members given by a list of entries: a repeated name keeps its first place and its last
value. -/
def ofEntries (entries : List (String × Value)) : Members :=
  entries.foldl (fun members entry => insert members entry.1 entry.2) []

/-- All members of the first, overlaid with all members of the second. -/
def overlay (lower upper : Members) : Members :=
  upper.foldl (fun members entry => insert members entry.1 entry.2) lower

/-- The members without those of the given names. -/
def without (members : Members) (names : List String) : Members :=
  members.filter fun entry => !names.contains entry.1

/-- Removes the member of a name. -/
def erase (members : Members) (name : String) : Members :=
  members.filter fun entry => entry.1 != name

end Members

namespace Value

/-- A plain list. -/
abbrev array (items : List Value) : Value := .list .plain items

/-- A plain object. -/
abbrev record (members : Members) : Value := .object .plain members

/-- Text, or null if there is none. -/
def ofText? : Option String → Value
  | none => .null
  | some s => .str s

/-- Whether a value counts as present when a default stands by: not null, unset, false, zero or
empty. -/
def truthy : Value → Bool
  | .null | .unset => false
  | .bool b => b
  | .int n => n != 0
  | .float x => !x.isZero
  | .str s => s != ""
  | .bytes bs => !bs.isEmpty
  | .date _ | .moment _ => true
  | .list _ items => !items.isEmpty
  | .object _ members => !members.isEmpty

/-- The value itself if it is truthy, otherwise the default. -/
def orElse (v default : Value) : Value := if v.truthy then v else default

/-- Null, unset or the empty text: a value that an operator has nothing to compare with. -/
def isBlank : Value → Bool
  | .null | .unset => true
  | .str s => s == ""
  | _ => false

/-- Whether the value is null. -/
def isNull : Value → Bool
  | .null => true
  | _ => false

/-- Whether the value is the marker for a value that was never given. -/
def isUnset : Value → Bool
  | .unset => true
  | _ => false

/-- Whether the value is a truth value. -/
def isBool : Value → Bool
  | .bool _ => true
  | _ => false

/-- Whether the value is text. -/
def isText : Value → Bool
  | .str _ => true
  | _ => false

/-- Whether the value is an object of either form. -/
def isObject : Value → Bool
  | .object _ _ => true
  | _ => false

/-- Whether the value is a list of either form. -/
def isList : Value → Bool
  | .list _ _ => true
  | _ => false

/-- The name of a value's kind, as it appears in messages. -/
def kindName : Value → String
  | .null => "NoneType"
  | .unset => "_Unset"
  | .bool _ => "bool"
  | .int _ => "int"
  | .float _ => "float"
  | .str _ => "str"
  | .bytes _ => "bytes"
  | .date _ => "date"
  | .moment _ => "datetime"
  | .list .plain _ => "list"
  | .list .frozen _ => "tuple"
  | .object .plain _ => "dict"
  | .object .frozen _ => "mappingproxy"

mutual

/-- Whether an object occurs in a value. -/
def hasObject : Value → Bool
  | .object _ _ => true
  | .list _ items => anyObject items
  | _ => false

/-- Whether an object occurs in a list. -/
def anyObject : List Value → Bool
  | [] => false
  | v :: rest => hasObject v || anyObject rest

end

/-! ### Changing form -/

mutual

/-- The value with every container in it given one form. -/
def withForm (form : Form) : Value → Value
  | .list _ items => .list form (withFormItems form items)
  | .object _ members => .object form (withFormMembers form members)
  | v => v

/-- The items of a list, each with every container in it given one form. -/
def withFormItems (form : Form) : List Value → List Value
  | [] => []
  | v :: rest => withForm form v :: withFormItems form rest

/-- The members of an object, each with every container in it given one form. -/
def withFormMembers (form : Form) : List (String × Value) → List (String × Value)
  | [] => []
  | (name, v) :: rest => (name, withForm form v) :: withFormMembers form rest

end

/-- A read-only copy. -/
def freeze : Value → Value := withForm .frozen

/-- A plain copy. -/
def thaw : Value → Value := withForm .plain

end Value

end DocView
