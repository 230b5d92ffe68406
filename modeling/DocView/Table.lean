import DocView.Document
import DocView.Json.Writer

/-!
# Tables

A table is given as an object or as a list of pairs, each of which is anything that yields two
things. Keys that are not names are allowed here; `keyText` spells those that have a spelling in
JSON.

## Main definitions

* `Table.entries`, `Table.keyText`
-/

namespace DocView.Table

/-- The entries of a list of pairs. -/
def pairs : List Value → Result (List (Value × Value))
  | [] => .ok []
  | v :: rest => do
    match ← v.elements? with
    | [key, value] =>
      match Document.unhashable? key with
      | some kind => .error (.unhashable kind)
      | none => .ok ((key, value) :: (← pairs rest))
    | _ =>
      .error (.badValue "dictionary update sequence element has the wrong length; 2 is required")

/-- The entries of a table. -/
def entries (v : Value) : Result (List (Value × Value)) :=
  match v with
  | .object _ members => .ok (members.map fun (name, value) => (.str name, value))
  | v => do pairs (← v.elements?)

/-- The spelling of a key as a name in JSON. Keys that are spelt alike, such as `5` and `"5"`, come
to share one entry wherever names are looked up by their spelling. -/
def keyText : Value → Result String
  | .str s => .ok s
  | .null => .ok "null"
  | .bool b => .ok (if b then "true" else "false")
  | .int n => .ok (intText n)
  | .float x => .ok (Json.floatText x)
  | v =>
    match Document.unhashable? v with
    | some kind => .error (.unhashable kind)
    | none => .error (.badArgument
        ("keys must be str, int, float, bool or None, not " ++ v.kindName))

end DocView.Table
