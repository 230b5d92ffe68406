import DocView.Error
import DocView.Filter.Operator
import DocView.Pattern.Matcher
import DocView.Text.Occurrence
import DocView.Value.Order
import DocView.Value.Text

/-!
# Evaluating a predicate

One field value is tested against one filter value. The rules apply in this order:

* a null field satisfies the checks for null and for emptiness, and nothing else;
* a blank filter value does likewise, whatever the field;
* the four checks look at the field alone, which passes as empty if it is the empty text;
* an operator that is not known is satisfied;
* everything else compares the two values. A comparison of kinds that have no order is not
  satisfied, and neither is a pattern that is not well formed.

The one failure is a pattern with a repeat count that is too large. A pattern may give characters by
their names, for which there is a table.

## Main definitions

* `Filter.compare`, `Filter.evaluate`
-/

namespace DocView.Filter

/-- Whether a value stands in a relation to another; values without an order stand in none. -/
def related (r : Relation) (a b : Value) : Bool := (Value.holds? r a b).getD false

/-- Whether a value lies between two bounds, of which a blank one is open. -/
def inRange (v low high : Value) : Bool :=
  let beyond (r : Relation) (bound : Value) : Option Bool :=
    if bound.isBlank then some false else Value.holds? r v bound
  match beyond .less low with
  | none => false
  | some true => false
  | some false =>
    match beyond .greater high with
    | none => false
    | some outside => !outside

/-- Whether a value is strictly equal to some item of a list. -/
def isAmong (v : Value) (items : List Value) : Bool := items.any fun item => v.strictlyEqual item

/-- The text of a value in lower case. -/
def loweredText (v : Value) : String := Text.lower v.text

/-- Whether the text of a value, in lower case, has an occurrence of a pattern. -/
def matchesPattern (v pattern : Value) (characters : Text.CharacterNames := .ascii) :
    Result Bool :=
  match Pattern.found? pattern.text (loweredText v) characters with
  | .ok found => .ok found
  | .error .malformed => .ok false
  | .error .repeatCountTooLarge => .error .repeatCountTooLarge

/-- Compares a field value with a filter value, neither of them blank. -/
def compare (v : Value) (op : Operator) (filter : Value)
    (characters : Text.CharacterNames := .ascii) : Result Bool :=
  match op with
  | .equals => .ok (v.strictlyEqual filter)
  | .notEquals => .ok !v.strictlyEqual filter
  | .contains => .ok (Text.occursIn (loweredText filter) (loweredText v))
  | .notContains => .ok !Text.occursIn (loweredText filter) (loweredText v)
  | .startsWith => .ok (Text.startsWith (loweredText v) (loweredText filter))
  | .endsWith => .ok (Text.endsWith (loweredText v) (loweredText filter))
  | .regex => matchesPattern v filter characters
  | .greaterThan => .ok (related .greater v filter)
  | .greaterThanOrEqual => .ok (related .greaterOrEqual v filter)
  | .lessThan => .ok (related .less v filter)
  | .lessThanOrEqual => .ok (related .lessOrEqual v filter)
  | .inRange =>
    match filter with
    | .list _ [low, high] => .ok (inRange v low high)
    | _ => .ok false
  | .isIn =>
    match filter with
    | .list _ items => .ok (isAmong v items)
    | _ => .ok false
  | .notIn =>
    match filter with
    | .list _ items => .ok !isAmong v items
    | _ => .ok true
  | .isNull | .isEmpty | .isNotNull | .isNotEmpty => .ok true

/-- Whether a field value satisfies an operator, which need not be known, with a filter value. -/
def evaluate (v : Value) (op? : Option Operator) (filter : Value)
    (characters : Text.CharacterNames := .ascii) : Result Bool :=
  let absent := op?.any Operator.holdsOfNull
  if v.isNull || v.isUnset || filter.isBlank then .ok absent
  else match op? with
    | none => .ok true
    | some op =>
      if op.isNullCheck then .ok (if op.holdsOfNull then v.isBlank else !v.isBlank)
      else compare v op filter characters

end DocView.Filter
