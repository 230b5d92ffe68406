import DocView.Json.Writer

/-!
# The text of a value

Operators on text see every value as text: null is empty, truth values are in lower case, a
double without a fraction is written as an integer, lists are joined by commas and objects are
written as compact JSON.

## Main definitions

* `Value.text`
-/

namespace DocView.Value

mutual

/-- The text of a value. -/
def text : Value → String
  | .null => ""
  | .unset => "UNSET"
  | .bool b => if b then "true" else "false"
  | .int n => intText n
  | .float x => if x.isIntegral then intText x.truncate else x.text
  | .str s => s
  | .bytes bs => Text.quotedBytes bs
  | .date d => d.text
  | .moment m => m.text "T"
  | .list _ items => ",".intercalate (itemTexts items)
  | .object form members => Json.render .compact (.object form members)

/-- The texts of the items of a list. -/
def itemTexts : List Value → List String
  | [] => []
  | v :: rest => text v :: itemTexts rest

end

end DocView.Value
