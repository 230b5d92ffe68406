import DocView.Text.Case
import DocView.Text.Blank
import DocView.Value.Literal

/-!
# Field types

A field, a condition and a sort key may each declare a type, which decides how values are coerced
before they are compared. A missing tag is no type at all; a tag that is not known means text.

## Main definitions

* `FieldType`, `FieldType.name`, `FieldType.ofValue?`
-/

namespace DocView

/-- The type of a field. -/
inductive FieldType where
  | string
  | number
  | boolean
  | date
  | array
  | null
  | object
deriving DecidableEq, Repr, Inhabited

namespace FieldType

/-- The tag of a type. -/
def name : FieldType → String
  | .string => "string"
  | .number => "number"
  | .boolean => "boolean"
  | .date => "date"
  | .array => "array"
  | .null => "null"
  | .object => "object"

/-- All types. -/
def all : List FieldType := [.string, .number, .boolean, .date, .array, .null, .object]

/-- The type with exactly this tag. -/
def ofName? (s : String) : Option FieldType := all.find? fun t => t.name == s

/-- The type that a tag means, whatever its case and the blanks around it. -/
def ofTag (s : String) : FieldType := (ofName? (Text.lower (Text.strip s))).getD .string

/-- The type that a value declares; null and the empty text declare none. -/
def ofValue? : Value → Option FieldType
  | .null => none
  | .str s => if s = "" then none else some (ofTag s)
  | v => some (ofTag v.display)

end FieldType

end DocView
