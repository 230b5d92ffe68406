import DocView.Filter.Set
import DocView.Page
import DocView.Settings
import DocView.Sorting.Documents

/-!
# Views

A view of a collection is what a user has set up: conditions and how they are combined, sort keys,
a page and its size. Running it filters the documents, sorts those that are left and cuts out one
page.

The types of sort keys are inferred from the whole collection and not from the documents that
pass, so that the order does not change as conditions come and go.

## Main definitions

* `View`, `View.Outcome`
* `View.passing`, `View.keys` - the documents to be shown, and their order
* `View.run`
-/

namespace DocView

/-- What is to be shown of a collection. All parts are as they were entered. -/
structure View where
  conditions : Value
  logic : Value
  sortKeys : Value
  page : Value
  pageSize : Value
deriving Repr, Inhabited

namespace View

/-- The view that shows the first page of everything. -/
def everything : View := ⟨.null, .null, .null, .int 1, .null⟩

/-- What a view shows. -/
structure Outcome where
  /-- The documents on the page. -/
  items : List Value
  /-- The names of the user's fields in the whole collection. -/
  fields : List String
  /-- Where the page lies among the documents that pass. -/
  page : Page.Info
  /-- How many documents there were. -/
  scanned : Nat
  /-- How many of them passed. -/
  matched : Nat
  /-- How many documents all pages have together. -/
  total : Nat
  /-- One line for each operator that is not known. -/
  warnings : List String
deriving Repr

namespace Outcome

/-- The number of documents on the page. -/
def returned (o : Outcome) : Nat := o.items.length

/-- The counts of a run as an object. -/
def counts (o : Outcome) : Members :=
  [("documents_scanned", .int o.scanned), ("documents_matched", .int o.matched),
   ("documents_returned", .int o.returned)]

end Outcome

/-- The documents that pass the conditions of a view, and the warnings on the way. -/
def passing (view : View) (documents : List Value) : Result (List Value × List String) := do
  let filters ← FilterSet.ofConditions view.conditions view.logic
  filters.apply (.array documents)

/-- The sort keys of a view, their types inferred from the whole collection. -/
def keys (settings : Settings) (view : View) (documents : List Value) : Result (List SortKey) := do
  SortKey.resolveAll documents settings.engine.typeSample
    (← (view.sortKeys.orElse (.array [])).elements?)

/-- Runs a view over a collection. -/
def run (settings : Settings) (view : View) (collection : Value) : Result Outcome := do
  let documents ← Argument.documents collection
  let size := view.pageSize.orElse settings.pagination.itemsPerPage
  let (matched, warnings) ← view.passing documents
  let keys ← view.keys settings documents
  let ordered ← Sorting.documents matched keys
  let items ← Page.ofList ordered view.page size
  let page ← Page.infoOf (.int ordered.length) view.page size
  let fields ← Fields.user (.array documents) settings.engine.internalPrefix
    settings.engine.fieldSample
  .ok {
    items := items
    fields := fields
    page := page
    scanned := documents.length
    matched := matched.length
    total := ordered.length
    warnings := warnings }

end View

end DocView
