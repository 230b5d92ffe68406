import DocView.Value.Basic

/-!
# Filter operators

The predicates of the filter engine. Each has a name of its own, and most of the comparisons also
have a symbol and the name that the store's query language gives them. Names are matched exactly.

## Main definitions

* `Operator`, `Operator.name`, `Operator.ofName?`, `Operator.ofValue?`
-/

namespace DocView

/-- A predicate on a field value and a filter value. -/
inductive Operator where
  | equals
  | notEquals
  | contains
  | notContains
  | startsWith
  | endsWith
  | regex
  | greaterThan
  | greaterThanOrEqual
  | lessThan
  | lessThanOrEqual
  | inRange
  | isIn
  | notIn
  | isNull
  | isEmpty
  | isNotNull
  | isNotEmpty
deriving DecidableEq, Repr

namespace Operator

/-- The name of an operator. -/
def name : Operator → String
  | .equals => "equals"
  | .notEquals => "notEquals"
  | .contains => "contains"
  | .notContains => "notContains"
  | .startsWith => "startsWith"
  | .endsWith => "endsWith"
  | .regex => "regex"
  | .greaterThan => "greaterThan"
  | .greaterThanOrEqual => "greaterThanOrEqual"
  | .lessThan => "lessThan"
  | .lessThanOrEqual => "lessThanOrEqual"
  | .inRange => "inRange"
  | .isIn => "in"
  | .notIn => "notIn"
  | .isNull => "isNull"
  | .isEmpty => "isEmpty"
  | .isNotNull => "isNotNull"
  | .isNotEmpty => "isNotEmpty"

/-- All operators. -/
def all : List Operator :=
  [.equals, .notEquals, .contains, .notContains, .startsWith, .endsWith, .regex, .greaterThan,
   .greaterThanOrEqual, .lessThan, .lessThanOrEqual, .inRange, .isIn, .notIn, .isNull, .isEmpty,
   .isNotNull, .isNotEmpty]

/-- The spellings of the store's query language. -/
def ofStoreName? (s : String) : Option Operator :=
  List.lookup s
    [("$eq", .equals), ("$ne", .notEquals), ("$gt", .greaterThan),
     ("$gte", .greaterThanOrEqual), ("$lt", .lessThan), ("$lte", .lessThanOrEqual),
     ("$in", .isIn), ("$nin", .notIn), ("$regex", .regex)]

/-- The symbols. -/
def ofSymbol? (s : String) : Option Operator :=
  List.lookup s
    [("=", .equals), ("!=", .notEquals), (">", .greaterThan), (">=", .greaterThanOrEqual),
     ("<", .lessThan), ("<=", .lessThanOrEqual)]

/-- The operator of a name, a symbol or a spelling of the query language. -/
def ofName? (s : String) : Option Operator :=
  (all.find? fun op => op.name == s).or ((ofSymbol? s).or (ofStoreName? s))

/-- The operator that a value names. -/
def ofValue? : Value → Option Operator
  | .str s => ofName? s
  | _ => none

/-- Whether an operator holds of a field that is missing or null. -/
def holdsOfNull : Operator → Bool
  | .isNull | .isEmpty => true
  | _ => false

/-- Whether an operator looks at the field value alone. -/
def isNullCheck : Operator → Bool
  | .isNull | .isEmpty | .isNotNull | .isNotEmpty => true
  | _ => false

/-- Whether an operator takes a list of values. -/
def takesList : Operator → Bool
  | .isIn | .notIn => true
  | _ => false

end Operator

end DocView
