import DocView.Filter.Set
import DocView.Query.Basic
import DocView.Text.Occurrence

/-!
# Replaying queries

A selector says of each field what its value has to be, and a filter set can say the same of
documents that have been fetched already. A value becomes a test for equality, null a test for
null, and a clause one condition for each of its operators. Names that start with a dollar sign
combine selectors; they and the operators that filters do not have are passed over.

The type of a condition is read off its value: a number, a truth value, or a list of numbers.
Anything else is text.

## Main definitions

* `Query.typeOf`
* `Query.conditions`
-/

namespace DocView.Query

mutual

/-- The type that a value in a selector stands for. -/
def typeOf : Value → FieldType
  | .list _ items => if hasPresent items && allNumbers items then .number else .string
  | .bool _ => .boolean
  | .int _ | .float _ => .number
  | _ => .string

/-- Whether all items of a list that are not null are numbers, or lists of them. -/
def allNumbers : List Value → Bool
  | [] => true
  | v :: rest => (v.isNull || typeOf v == .number) && allNumbers rest

/-- Whether some item of a list is not null. -/
def hasPresent : List Value → Bool
  | [] => false
  | v :: rest => !v.isNull || hasPresent rest

end

/-- A list in plain form; its items stay as they are. -/
def plainList : Value → Value
  | .list _ items => .array items
  | v => v

/-- A condition on a field. -/
def condition (field : String) (op : Operator) (value : Value) (type : FieldType) : Condition :=
  ⟨.str field, .str op.name, value, type⟩

/-- The condition that one operator of a clause stands for. -/
def clauseCondition? (field name : String) (argument : Value) : Option Condition :=
  if name = "$exists" then
    some (condition field (if argument.truthy then .isNotNull else .isNull) (.bool true) .string)
  else
    (Operator.ofStoreName? name).map fun op =>
      let v := plainList argument
      if op = .regex then condition field op (.str v.display) .string
      else condition field op v (typeOf v)

/-- The conditions that one member of a selector stands for. -/
def memberConditions (field : String) (v : Value) : List Condition :=
  if Text.startsWith field "$" then []
  else match v with
    | .null => [condition field .isNull (.bool true) .string]
    | .object _ members =>
      members.filterMap fun (name, argument) => clauseCondition? field name argument
    | v => [condition field .equals (plainList v) (typeOf v)]

/-- The conditions that a selector stands for. -/
def conditionsOf (selector : Members) : List Condition :=
  selector.flatMap fun (field, v) => memberConditions field v

/-- The conditions that the selector of a query stands for. -/
def conditions (q : Query) : List Condition := conditionsOf q.selector

/-- The conditions that a value stands for as a selector. -/
def conditionsOfValue (selector : Value) : Result (List Condition) :=
  match selector with
  | .object _ members => .ok (conditionsOf members)
  | v => .error (.noMember v.kindName "items")

end DocView.Query
