import DocView.Proofs.Result
import DocView.Proofs.Sorting.Comparison
import DocView.Proofs.Sorting.Stable

/-!
# Sorting documents is a stable sort

`Sorting.documents` reads every field once, sorts rows and throws the values away again. What it
computes is said here without rows: `compareDocuments` compares two documents key by key, each
time looking the field up, and the first key that does not tie decides. The sort is the stable
sort of the documents themselves under that comparison.

A sort field that is no name makes the lookup fail, so the statement is about keys whose fields
are text. That includes the empty text, which names no field: such a key is passed over.

## Main definitions

* `Sorting.compareDocuments` - the order of two documents under sort keys

## Main results

* `Sorting.documents_isStableSort`
-/

namespace DocView.Sorting

open Std (TransCmp)

/-- The value that a key compares; null if its field is no name. -/
def keyValue (key : SortKey) (document : Value) : Value :=
  match Document.field document key.field with
  | .ok v => v
  | .error _ => .null

/-- The order of two documents under one key: by type, a missing one read as text, and turned
around if the key is descending. -/
def compareByKey (key : SortKey) (a b : Value) : Ordering :=
  key.direction.apply (compareValues key.comparisonType (keyValue key a) (keyValue key b))

/-- The first result that is not a tie. -/
def firstDecision (results : List Ordering) : Ordering := (results.find? (· != .eq)).getD .eq

/-- The order of two documents under sort keys, of which those without a field do not count. -/
def compareDocuments (keys : List SortKey) (a b : Value) : Ordering :=
  firstDecision ((keys.filter SortKey.isActive).map fun key => compareByKey key a b)

theorem firstDecision_cons (result : Ordering) (results : List Ordering) :
    firstDecision (result :: results) = result.then (firstDecision results) := by
  cases result <;> rfl

/-! ### The comparison is a total preorder -/

theorem compareByKey_transCmp (key : SortKey) : TransCmp (compareByKey key) :=
  have := transCmp_comap (compareValues key.comparisonType) (keyValue key)
  key.direction.transCmp_apply fun a b =>
    compareValues key.comparisonType (keyValue key a) (keyValue key b)

theorem firstDecision_transCmp (keys : List SortKey) :
    TransCmp fun a b => firstDecision (keys.map fun key => compareByKey key a b) := by
  induction keys with
  | nil => exact { eq_swap := rfl, isLE_trans := fun _ _ => rfl }
  | cons key keys ih =>
    have hcons : (fun a b => firstDecision ((key :: keys).map fun key => compareByKey key a b))
        = fun a b => (compareByKey key a b).then
            (firstDecision (keys.map fun key => compareByKey key a b)) := by
      funext a b
      rw [List.map_cons, firstDecision_cons]
    rw [hcons]
    have := compareByKey_transCmp key
    exact transCmp_then (compareByKey key)
      fun a b => firstDecision (keys.map fun key => compareByKey key a b)

instance compareDocuments_transCmp (keys : List SortKey) : TransCmp (compareDocuments keys) :=
  firstDecision_transCmp (keys.filter SortKey.isActive)

/-! ### Rows -/

/-- A document with the values of all keys. -/
def rowOf (keys : List SortKey) (document : Value) : Row :=
  ⟨keys.map fun key => keyValue key document, document⟩

/-- Every key can be looked up in a document. -/
def Reads (keys : List SortKey) (document : Value) : Prop :=
  ∀ key ∈ keys, Document.field document key.field = .ok (keyValue key document)

theorem field_eq_keyValue {key : SortKey} {document v : Value}
    (h : Document.field document key.field = .ok v) :
    Document.field document key.field = .ok (keyValue key document) := by
  rw [keyValue, h]

theorem reads_of_isText {keys : List SortKey} (hkeys : ∀ key ∈ keys, key.field.isText)
    (document : Value) : Reads keys document := by
  intro key hkey
  have htext := hkeys key hkey
  cases hfield : key.field with
  | str name =>
    rw [← hfield]
    exact field_eq_keyValue (by rw [hfield]; rfl)
  | _ => rw [hfield] at htext; contradiction

theorem row_eq_rowOf {keys : List SortKey} {document : Value} (hreads : Reads keys document) :
    row keys document = .ok (rowOf keys document) := by
  rw [row, mapM_eq_ok hreads]
  rfl

/-- Comparing the values of two rows is comparing the documents. -/
theorem compareFields_rowOf (keys : List SortKey) (a b : Value) :
    compareFields keys (rowOf keys a).values (rowOf keys b).values
      = firstDecision (keys.map fun key => compareByKey key a b) := by
  induction keys with
  | nil => rfl
  | cons key keys ih =>
    rw [List.map_cons, firstDecision_cons, ← ih]
    rfl

/-- Sorting rows is sorting documents. -/
theorem documents_eq_mergeSort_of_reads {keys : List SortKey} {docs : List Value}
    (hreads : ∀ document ∈ docs, Reads (keys.filter SortKey.isActive) document) :
    documents docs keys = .ok (docs.mergeSort fun a b => (compareDocuments keys a b).isLE) := by
  unfold documents compareDocuments
  generalize keys.filter SortKey.isActive = active at hreads
  cases active with
  | nil =>
    have hsorted : docs.Pairwise fun a b =>
        (firstDecision (([] : List SortKey).map fun key => compareByKey key a b)).isLE = true :=
      List.pairwise_of_forall fun _ _ => rfl
    rw [List.mergeSort_of_pairwise hsorted]
    rfl
  | cons key rest =>
    have hrows : docs.mapM (row (key :: rest)) = .ok (docs.map (rowOf (key :: rest))) :=
      mapM_eq_ok fun document hdocument => row_eq_rowOf (hreads document hdocument)
    have hsort : ((docs.map (rowOf (key :: rest))).mergeSort (inOrder (key :: rest))).map
          Row.document
        = docs.mergeSort fun a b =>
            (firstDecision ((key :: rest).map fun key => compareByKey key a b)).isLE := by
      rw [← List.map_mergeSort (f := rowOf (key :: rest)) fun a _ b _ => ?_, List.map_map]
      · exact List.map_id _
      · rw [inOrder, compareFields_rowOf]
    simp only [List.isEmpty_cons, Bool.false_eq_true, if_false, hrows]
    exact congrArg Except.ok hsort

theorem documents_eq_mergeSort {keys : List SortKey} (hkeys : ∀ key ∈ keys, key.field.isText)
    (docs : List Value) :
    documents docs keys = .ok (docs.mergeSort fun a b => (compareDocuments keys a b).isLE) :=
  documents_eq_mergeSort_of_reads fun document _ =>
    reads_of_isText (fun key hkey => hkeys key (List.mem_filter.mp hkey).1) document

/-- **Sorting documents is the stable sort by the keys.** It always answers if the keys name their
fields, whatever the documents are; and the answer holds every document once, in order under
`compareDocuments`, with ties in input order. -/
theorem documents_isStableSort {keys : List SortKey} (hkeys : ∀ key ∈ keys, key.field.isText)
    (docs : List Value) :
    ∃ sorted σ, documents docs keys = .ok sorted ∧
      IsStableSort (compareDocuments keys) docs sorted σ :=
  ⟨_, _, documents_eq_mergeSort hkeys docs, mergeSort_isStableSort (compareDocuments keys) docs⟩

/-- A column of numbers, nulls and texts in descending order, then a column without a type; the key
in between names no field. -/
theorem documents_isStableSort_mixed :
    let keys : List SortKey :=
      [⟨.str "n", .desc, some .number⟩, ⟨.str "", .asc, none⟩, ⟨.str "name", .asc, none⟩]
    let docs : List Value :=
      [.record [("n", .null)], .record [("n", .int 2), ("name", .str "b")],
        .record [("n", .str "x"), ("name", .array [])], .record []]
    (∀ key ∈ keys, key.field.isText) ∧
      ∃ sorted σ, documents docs keys = .ok sorted ∧
        IsStableSort (compareDocuments keys) docs sorted σ := by
  intro keys docs
  have hkeys : ∀ key ∈ keys, key.field.isText := by simp [keys, Value.isText]
  exact ⟨hkeys, documents_isStableSort hkeys docs⟩

end DocView.Sorting
