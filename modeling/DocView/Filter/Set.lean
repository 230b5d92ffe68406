import DocView.Argument
import DocView.Filter.Condition

/-!
# Filter sets

Several conditions, of which a document has to pass all or at least one. A set without conditions
passes every document. The documents that pass keep their order.

An operator that is not known passes every document, but not silently: `FilterSet.warnings` has a
line for each such operator, in order and without repetition.

## Main definitions

* `Logic`, `FilterSet`
* `FilterSet.passes`, `FilterSet.select`, `FilterSet.apply`
* `FilterSet.warnings`
-/

namespace DocView

/-- Whether all conditions of a set count or one is enough. -/
inductive Logic where
  | and
  | or
deriving DecidableEq, Repr, Inhabited

namespace Logic

/-- The token of a logic. -/
def name : Logic → String
  | .and => "AND"
  | .or => "OR"

/-- The logic that a value names; every value but a spelling of `OR` means `AND`. -/
def ofValue (v : Value) : Logic :=
  if Text.upper (Text.strip (v.orElse (.str "")).display) = "OR" then .or else .and

end Logic

/-- Conditions together with the way in which they are combined. -/
structure FilterSet where
  conditions : List Condition
  logic : Logic
deriving Repr, Inhabited

namespace FilterSet

/-- A filter set from the object forms of its conditions. -/
def ofConditions (conditions logic : Value) : Result FilterSet := do
  let items ← (conditions.orElse (.array [])).elements?
  .ok ⟨← items.mapM Condition.ofValue, .ofValue logic⟩

/-- A filter set from its object form. -/
def ofValue (v : Value) : Result FilterSet := do
  let members ← v.members?
  ofConditions (Value.member members "conditions") (Value.member members "logic")

/-- The object form of a filter set. -/
def toValue (f : FilterSet) : Value :=
  .record [("logic", .str f.logic.name),
    ("conditions", .array (f.conditions.map Condition.toValue))]

/-- Whether a document passes every condition; those after the first that it fails are not
tried. -/
def passesAll (document : Value) : List Condition → Result Bool
  | [] => .ok true
  | c :: rest => do if ← c.accepts document then passesAll document rest else .ok false

/-- Whether a document passes some condition; those after the first that it passes are not
tried. -/
def passesAny (document : Value) : List Condition → Result Bool
  | [] => .ok false
  | c :: rest => do if ← c.accepts document then .ok true else passesAny document rest

/-- Whether a document passes. -/
def passes (f : FilterSet) (document : Value) : Result Bool :=
  if f.conditions.isEmpty then .ok true
  else match f.logic with
    | .and => passesAll document f.conditions
    | .or => passesAny document f.conditions

/-- The documents that pass, in order. -/
def select (f : FilterSet) : List Value → Result (List Value)
  | [] => .ok []
  | d :: rest => do
    let kept ← f.passes d
    let others ← f.select rest
    .ok (if kept then d :: others else others)

/-! ### Unknown operators -/

/-- The operators of conditions that constrain something, as far as they are not known. -/
def unknownOperators (f : FilterSet) : List Value :=
  (f.conditions.filter fun c => !c.isVacuous && !c.isKnown).map Condition.operator

/-- The values of a list without those that are equal to an earlier one. -/
def distinct (vs : List Value) : List Value :=
  vs.foldl (fun seen v => if seen.any v.equal then seen else seen ++ [v]) []

/-- The first pair of values in a list that have no order. -/
def unordered? : List Value → Option (Value × Value)
  | [] => none
  | v :: rest =>
    match rest.find? fun w => (Value.holds? .less v w).isNone with
    | some w => some (v, w)
    | none => unordered? rest

/-- A line for each operator that is not known. Such operators have to be in order. -/
def warnings (f : FilterSet) : Result (List String) := do
  let operators := f.unknownOperators
  match operators.findSome? Document.unhashable? with
  | some kind => .error (.unhashable kind)
  | none =>
    let operators := distinct operators
    match unordered? operators with
    | some (v, w) => .error (.notOrdered w.kindName v.kindName)
    | none =>
      let ordered := operators.mergeSort fun a b => (Value.holds? .lessOrEqual a b).getD true
      .ok (ordered.map fun v =>
        "Unknown filter operator " ++ v.literal ++ "; condition passes every document")

/-! ### Collections -/

/-- The documents of a collection that pass, and the warnings on the way. -/
def apply (f : FilterSet) (documents : Value) : Result (List Value × List String) := do
  let documents ← Argument.documents documents
  if f.conditions.isEmpty then .ok (documents, [])
  else
    let lines ← f.warnings
    .ok (← f.select documents, lines)

/-- A filter set as it is shown. -/
def literal (f : FilterSet) : String :=
  "FilterSet(" ++ f.logic.name ++ ", [" ++ ", ".intercalate (f.conditions.map Condition.literal)
    ++ "])"

end FilterSet

end DocView
