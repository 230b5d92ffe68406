import DocView.Coercion
import DocView.FieldType
import DocView.Filter.Operator
import DocView.Text.Split
import DocView.Value.Text

/-!
# Preparing values for comparison

A filter value arrives as it was typed. Before it is compared it is converted to the type of the
condition, and so is the field value, so that both are of one kind. What does not convert stays as
it is, and so do blank values.

A list operator takes a list; text in its place is a list of items separated by commas. The same
holds for text under the type of lists.

## Main definitions

* `Filter.convert`, `Filter.prepareFilterValue`, `Filter.prepareFieldValue`
-/

namespace DocView.Filter

/-- The value converted to a type if it converts. -/
def convert (type : FieldType) (v : Value) : Value :=
  if v.isBlank then v
  else match type with
    | .number => ((coerceNumber v).map Number.toValue).getD v
    | .boolean => ((coerceBoolean v).map Value.bool).getD v
    | .date => ((coerceDate v).map Value.moment).getD v
    | _ => v

/-- The items that a list operator takes a value to list. -/
def listItems : Value → List Value
  | .list _ items => items
  | v => (Text.commaItems v.text).map .str

/-- The form in which a filter value is compared. -/
def prepareFilterValue (type : FieldType) (op? : Option Operator) (v : Value) : Value :=
  if v.isBlank then v
  else if op?.any Operator.takesList || (type == .array && v.isText) then
    .array ((listItems v).map (convert type))
  else match v with
    | .list form items =>
      if op? = some .inRange then .array (items.map (convert type))
      else convert type (.list form items)
    | v => convert type v

/-- The form in which a field value is compared. -/
def prepareFieldValue (type : FieldType) (v : Value) : Value := convert type v

end DocView.Filter
