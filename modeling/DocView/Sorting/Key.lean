import DocView.Error
import DocView.FieldType

/-!
# Sort keys

One entry of a sort configuration: a field, a direction and perhaps a type. A key without a type
has it inferred from the documents, and a key without a field sorts nothing.

A field is kept as the value it was given as. Anything truthy counts as a field, and only looking
it up in a document shows whether it is a name.

## Main definitions

* `Direction`, `Direction.ofValue`
* `SortKey`, `SortKey.ofValue`, `SortKey.toValue`
-/

namespace DocView

/-- Ascending or descending. -/
inductive Direction where
  | asc
  | desc
deriving DecidableEq, Repr, Inhabited

namespace Direction

/-- The token of a direction. -/
def name : Direction → String
  | .asc => "asc"
  | .desc => "desc"

/-- The word that a value stands for: its text in lower case and without blanks around it, empty
for a value that is not truthy. -/
def word (v : Value) : String := Text.lower (Text.strip (v.orElse (.str "")).display)

/-- The direction that a value names, in full or short, or else the default. -/
def ofValue (v : Value) (default : Direction) : Direction :=
  let w := word v
  if w = "asc" ∨ w = "ascending" then .asc
  else if w = "desc" ∨ w = "descending" then .desc
  else default

/-- An ordering read in a direction. -/
def apply : Direction → Ordering → Ordering
  | .asc, o => o
  | .desc, o => o.swap

end Direction

/-- One entry of a sort configuration. -/
structure SortKey where
  field : Value
  direction : Direction
  type? : Option FieldType
deriving Repr, Inhabited

namespace SortKey

/-- A sort key from its object form. -/
def ofValue (v : Value) : Result SortKey := do
  let members ← v.members?
  .ok {
    field := (Value.member members "field").orElse (.str "")
    direction := .ofValue (Value.member members "direction") .asc
    type? := FieldType.ofValue? (Value.member members "type") }

/-- The object form of a sort key; a type is there only if the key has one. -/
def toValue (key : SortKey) : Value :=
  .record ([("field", key.field), ("direction", .str key.direction.name)]
    ++ match key.type? with
      | none => []
      | some type => [("type", .str type.name)])

/-- Whether the key names a field. -/
def isActive (key : SortKey) : Bool := key.field.truthy

end SortKey

end DocView
