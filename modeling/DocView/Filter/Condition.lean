import DocView.Document
import DocView.Filter.Evaluation
import DocView.Filter.Preparation

/-!
# Filter conditions

A condition tests one field of a document. It is *vacuous*, and passes every document, if it
names no field or its value was never given; a value of null was given.

Field and operator are kept as they came, since a condition is shown and saved again in the form
in which it was entered.

## Main definitions

* `Condition`, `Condition.ofValue`, `Condition.toValue`
* `Condition.isVacuous`, `Condition.accepts`
-/

namespace DocView

/-- A test of one field. -/
structure Condition where
  field : Value
  operator : Value
  value : Value
  type : FieldType
deriving Repr, Inhabited

namespace Condition

/-- A condition from its object form. The operator is equality and the type text unless given. -/
def ofValue (v : Value) : Result Condition := do
  let members ← v.members?
  .ok {
    field := (Value.member members "field").orElse (.str "")
    operator := (Value.member members "operator").orElse (.str Operator.equals.name)
    value := (Members.get? members "value").getD .unset
    type := (FieldType.ofValue? (Value.member members "type")).getD .string }

/-- The object form of a condition; a value that was never given is left out. -/
def toValue (c : Condition) : Value :=
  .record ([("field", c.field), ("operator", c.operator), ("type", .str c.type.name)]
    ++ if c.value.isUnset then [] else [("value", c.value)])

/-- Whether the condition does not constrain anything. -/
def isVacuous (c : Condition) : Bool := !c.field.truthy || c.value.isUnset

/-- The operator, if it is known. -/
def operator? (c : Condition) : Option Operator := Operator.ofValue? c.operator

/-- Whether the operator is known. -/
def isKnown (c : Condition) : Bool := c.operator?.isSome

/-- Whether a document passes. -/
def accepts (c : Condition) (document : Value) : Result Bool :=
  if c.isVacuous then .ok true
  else do
    let v ← Document.field document c.field
    Filter.evaluate (Filter.prepareFieldValue c.type v) c.operator?
      (Filter.prepareFilterValue c.type c.operator? c.value)

/-- A condition as it is shown. -/
def literal (c : Condition) : String :=
  "FilterCondition(" ++ c.field.display ++ " " ++ c.operator.display ++ " " ++ c.value.literal
    ++ ")"

end Condition

end DocView
