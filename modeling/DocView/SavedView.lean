import DocView.Filter.Condition
import DocView.Json.Reader
import DocView.Json.Writer
import DocView.Sorting.Documents

/-!
# Saved conditions and sort keys

The conditions and the sort keys of a view are saved as JSON lists of their object forms and read
back from them. No text at all is an empty list.

## Main definitions

* `SavedView.dumpConditions`, `SavedView.loadConditions`
* `SavedView.dumpSortKeys`, `SavedView.loadSortKeys`
-/

namespace DocView.SavedView

/-- Writes values as a JSON list; a value that cannot be written is refused. -/
def dump (items : List Value) : Result String :=
  match Json.write? .spaced (.array items) with
  | .ok text => .ok text
  | .error part => .error (.ofUnwritable part)

/-- Writes conditions, each from its object form. -/
def dumpConditions (v : Value) : Result String := do
  let conditions ← (← v.elements?).mapM Condition.ofValue
  dump (conditions.map Condition.toValue)

/-- Writes sort keys, each from its object form. -/
def dumpSortKeys (v : Value) : Result String := do
  dump ((← SortKey.ofValues v).map SortKey.toValue)

/-- The objects in a JSON list. The name says what they are in messages. -/
def objects (what : String) (text : Value) : Result (List Value) :=
  if !text.truthy then .ok []
  else match text with
    | .str s =>
      match Json.read s with
      | .error fault => .error (.viewUndecodable what fault.message)
      | .ok (.list _ items) =>
        if items.all Value.isObject then .ok items else .error (.viewItemNotObject what)
      | .ok _ => .error (.viewNotList what)
    | v => .error (.badArgument
        ("the JSON object must be str, bytes or bytearray, not " ++ v.kindName))

/-- Reads conditions. -/
def loadConditions (text : Value) : Result (List Condition) := do
  (← objects "filters" text).mapM Condition.ofValue

/-- Reads sort keys. -/
def loadSortKeys (text : Value) : Result (List SortKey) := do
  (← objects "sort keys" text).mapM SortKey.ofValue

end DocView.SavedView
