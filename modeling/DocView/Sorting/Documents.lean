import DocView.Inference
import DocView.Sorting.Comparison
import DocView.Sorting.Key

/-!
# Sorting documents

Sort keys are applied in order of priority: the first key under which two documents differ
decides, and documents that tie on every key keep their order.

Each field is read once per document. A *row* is a document together with the values of the
fields, and rows are sorted by a stable merge sort.

## Main definitions

* `SortKey.ofValues`, `SortKey.resolve`
* `Sorting.compareFields`, `Sorting.documents`
-/

namespace DocView

namespace SortKey

/-- A list of sort keys from their object forms. -/
def ofValues (v : Value) : Result (List SortKey) := do (← v.elements?).mapM SortKey.ofValue

/-- The key with its type inferred from the documents, if it has a field but no type. -/
def resolve (documents : List Value) (window : Value) (key : SortKey) : Result SortKey :=
  match key.type? with
  | some _ => .ok key
  | none =>
    if key.isActive then do
      .ok { key with type? := some (← Inference.ofField documents key.field window) }
    else .ok key

/-- All keys with their types inferred, each from its object form and in order. -/
def resolveAll (documents : List Value) (window : Value) : List Value → Result (List SortKey)
  | [] => .ok []
  | v :: rest => do
    let key ← SortKey.ofValue v
    let key ← key.resolve documents window
    .ok (key :: (← resolveAll documents window rest))

/-- The type under which a key compares. -/
def comparisonType (key : SortKey) : FieldType := key.type?.getD .string

end SortKey

namespace Sorting

/-- The values of the sort fields of a document, in the order of the keys, and the document. -/
structure Row where
  values : List Value
  document : Value

/-- The order of two lists of values under keys: the first key that tells them apart decides. -/
def compareFields : List SortKey → List Value → List Value → Ordering
  | key :: keys, a :: as, b :: bs =>
    (key.direction.apply (compareValues key.comparisonType a b)).then (compareFields keys as bs)
  | _, _, _ => .eq

/-- Whether the first row may stand before the second. -/
def inOrder (keys : List SortKey) (a b : Row) : Bool :=
  (compareFields keys a.values b.values).isLE

/-- The row of a document. -/
def row (keys : List SortKey) (document : Value) : Result Row := do
  let values ← keys.mapM fun key => Document.field document key.field
  .ok ⟨values, document⟩

/-- The documents in the order of the keys. Keys without a field are passed over. -/
def documents (docs : List Value) (keys : List SortKey) : Result (List Value) :=
  let active := keys.filter SortKey.isActive
  if active.isEmpty then .ok docs
  else do
    let rows ← docs.mapM (row active)
    .ok ((rows.mergeSort (inOrder active)).map Row.document)

end Sorting

end DocView
