import DocView.Filter.Set
import DocView.Server.Complaint
import DocView.Sorting.Key

/-!
# Forms of requests

What the bodies of requests have to look like, and what they become. Members that a form does not
name are passed over. Conditions keep apart what was sent from what was left out: a condition
without a value does not constrain anything, while one with a null value does.

## Main definitions

* `Server.FieldsForm`, `Server.ViewForm`, `Server.BuildForm`, `Server.ParseForm`
-/

namespace DocView.Server

open Check

/-- A member of an object as it is passed on, if it was sent. -/
def sent {α : Type} (check : Check α) (encode : α → Value) (name : String) (place : Place)
    (members : Members) : Checked Members :=
  match Members.get? members name with
  | some v => (check (place ++ [.name name]) v).map fun x => [(name, encode x)]
  | none => .ok []

/-! ### Conditions, sort keys and rows -/

/-- A condition, in object form, of the members that were sent. -/
def Check.condition : Check Value := model fun place members =>
  let join (a b c d : Members) : Value := .record (a ++ b ++ c ++ d)
  Checked.app (Checked.app (Checked.app
    ((sent text .str "field" place members).map join)
    (sent text .str "operator" place members))
    (sent any id "value" place members))
    (sent (Check.optional fieldTypeName) .ofText? "type" place members)

/-- The name of the direction that a text asks for. -/
def Check.directionName : Check String := fun place v =>
  (text place v).map fun s => (Direction.ofValue (.str s) .asc).name

/-- A sort key in object form. -/
def Check.sortKey : Check Value := model fun place members =>
  let join (field direction : String) (type : Option String) : Value :=
    .record [("field", .str field), ("direction", .str direction), ("type", .ofText? type)]
  Checked.app (Checked.app
    ((required text "field" place members).map join)
    (member Check.directionName "direction" Direction.asc.name place members))
    (member (Check.optional text) "type" none place members)

/-- A row of the query builder in object form. -/
def Check.row : Check Value := model fun place members =>
  let join (field operator : String) (value : Value) : Value :=
    .record [("field", .str field), ("operator", .str operator), ("value", value)]
  Checked.app (Checked.app
    ((member text "field" "" place members).map join)
    (member text "operator" "$eq" place members))
    (member any "value" (.str "") place members)

/-- The order of a query that is built, in object form. -/
def Check.order : Check Value := model fun place members =>
  let join (field direction : String) : Value :=
    .record [("field", .str field), ("direction", .str direction)]
  Checked.app
    ((required text "field" place members).map join)
    (member text "direction" Direction.asc.name place members)

/-! ### Whole bodies -/

/-- A request for the fields of a collection. -/
structure FieldsForm where
  documents : List Value
  includeInternal : Bool

/-- The form of a request for fields. -/
def FieldsForm.check : Check FieldsForm := model fun place members =>
  Checked.app
    ((required (items any) "documents" place members).map FieldsForm.mk)
    (member boolean "include_internal" false place members)

/-- A request for a view of a collection. -/
structure ViewForm where
  documents : List Value
  conditions : List Value
  logic : Logic
  sortKeys : List Value
  page : Int
  pageSize : Option Int

/-- The logic that a text asks for. -/
def Check.logic : Check Logic := fun place v => (text place v).map fun s => .ofValue (.str s)

/-- The largest page size that a client may ask for. -/
def maxPageSize : Int := 100000

/-- The form of a request for a view. -/
def ViewForm.check : Check ViewForm := model fun place members =>
  Checked.app (Checked.app (Checked.app (Checked.app (Checked.app
    ((required (items any) "documents" place members).map ViewForm.mk)
    (member (items Check.condition) "filters" [] place members))
    (member Check.logic "logic" .and place members))
    (member (items Check.sortKey) "sort" [] place members))
    (member (atLeast 1) "page" 1 place members))
    (member (Check.optional (between 1 maxPageSize)) "page_size" none place members)

/-- A request to build a query. The limit is unset unless it was sent. -/
structure BuildForm where
  rows : List Value
  fields : List String
  order : Option Value
  limit : Value
  everything : Bool

/-- A limit: null, an integer or a text. -/
def Check.limit : Check Value := fun place v =>
  match v with
  | .null => .ok .null
  | v => integerOrText place v

/-- The form of a request to build a query. -/
def BuildForm.check : Check BuildForm := model fun place members =>
  Checked.app (Checked.app (Checked.app (Checked.app
    ((member (items Check.row) "conditions" [] place members).map BuildForm.mk)
    (member (items text) "fields" [] place members))
    (member (Check.optional Check.order) "sort" none place members))
    (member Check.limit "limit" .unset place members))
    (member boolean "no_limit" false place members)

/-- A request to parse the text of a query. -/
structure ParseForm where
  text : String

/-- A text that is not empty. -/
def Check.someText : Check String := fun place v => do
  let s ← text place v
  if s = "" then fail .textTooShort place (.str s) else .ok s

/-- The form of a request to parse a query. -/
def ParseForm.check : Check ParseForm := model fun place members =>
  (required Check.someText "text" place members).map ParseForm.mk

end DocView.Server
