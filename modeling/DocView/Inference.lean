import DocView.Coercion
import DocView.Fields
import DocView.FieldType

/-!
# Type inference

The type of a field is guessed from the first values that are not null: if all of them are
numbers or numeric texts it is a number, and likewise for truth values, dates and lists. Mixed
values, and no values at all, make it text.

## Main definitions

* `Inference.detect` - the type of one value
* `Inference.ofWindow`, `Inference.ofSamples`
* `Inference.infer` - inference through a window of a given size
* `Inference.ofField`, `Inference.ofFields`
-/

namespace DocView.Inference

/-- How many values are looked at, unless a setting says otherwise. -/
def defaultWindow : Value := .int 10

/-- Whether a value is a date or reads as one. -/
def isDateLike (v : Value) : Bool := (coerceDate v).isSome

/-- The type of one value. -/
def detect (v : Value) : FieldType :=
  match v with
  | .null => .null
  | .list _ _ => .array
  | .bool _ => .boolean
  | .int _ | .float _ => .number
  | .object .plain _ => .object
  | v => if isDateLike v then .date else .string

/-- The type of the values in a window, none of them null. -/
def ofWindow (values : List Value) : FieldType :=
  if values.isEmpty then .string
  else if values.all fun v => (coerceNumber v).isSome then .number
  else if values.all Value.isBool then .boolean
  else if values.all isDateLike then .date
  else if values.all Value.isList then .array
  else .string

/-- The type of samples, of which the first ones that are not null count. -/
def ofSamples (samples : List Value) (window : Window) : FieldType :=
  ofWindow (window.take (samples.filter fun v => !v.isNull))

/-- The type of samples, looked at through a window of a given size. -/
def infer (samples : List Value) (size : Value) : Result FieldType := do
  .ok (ofSamples samples (← Window.ofValue size))

/-- The values of a field that a window shows. Documents beyond the window are not looked at. -/
def fieldWindow (field : Value) : Window → List Value → Result (List Value)
  | some 0, _ => .ok []
  | _, [] => .ok []
  | window, d :: rest => do
    let v ← Document.field d field
    if v.isNull then fieldWindow field window rest
    else
      let others ← fieldWindow field (window.map (· - 1)) rest
      .ok (v :: others)

/-- The type of a field over the documents of a collection. -/
def ofField (documents : List Value) (field : Value) (window : Value) : Result FieldType := do
  let window ← Window.ofValue window
  .ok (ofWindow (← fieldWindow field window documents))

/-- Sets the type of a field: in place if the field is there already, at the end otherwise. -/
def setType : List (Value × FieldType) → Value → FieldType → List (Value × FieldType)
  | [], field, type => [(field, type)]
  | (f, t) :: rest, field, type =>
    if Value.equal f field then (f, type) :: rest else (f, t) :: setType rest field type

/-- The types of several fields, each field once. -/
def ofFields (documents : List Value) (fields : List Value) (window : Value) :
    Result (List (Value × FieldType)) :=
  fields.foldlM (fun types field => do
    let type ← ofField documents field window
    match Document.unhashable? field with
    | some kind => .error (.unhashable kind)
    | none => .ok (setType types field type)) []

end DocView.Inference
