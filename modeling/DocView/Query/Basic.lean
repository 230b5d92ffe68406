import DocView.Coercion
import DocView.Settings
import DocView.Sorting.Key
import DocView.Table

/-!
# Queries

A query for the document store: which documents to select, how many at most, which of their
fields to return and how to order them. The selector maps fields to values or to clauses made of
operators; it is frozen, so that a query is read-only as a whole.

Fields and order that are not asked for are empty lists.

## Main definitions

* `Query`, `Query.toValue`, `Query.ofValue`
-/

namespace DocView

/-- A query. -/
structure Query where
  selector : Members
  limit : Value
  fields : List Value
  sort : List (String × Direction)
deriving Repr, Inhabited

namespace Query

/-- The query with a selector, whose values are frozen. -/
def ofSelector (selector : Members) (limit : Value) (fields : List Value)
    (sort : List (String × Direction)) : Query :=
  ⟨Value.withFormMembers .frozen selector, limit, fields, sort⟩

/-- The frozen selector as a value. -/
def frozenSelector (q : Query) : Value := .object .frozen q.selector

/-- The selector as a plain value. -/
def plainSelector (q : Query) : Value := q.frozenSelector.thaw

/-- One entry of an order as an object. -/
def sortEntry (entry : String × Direction) : Value :=
  .record [(entry.1, .str entry.2.name)]

/-- A query as a plain object; fields and order are there only if they are asked for. -/
def toValue (q : Query) : Value :=
  .record ([("selector", q.plainSelector), ("limit", q.limit)]
    ++ (if q.fields.isEmpty then [] else [("fields", .array q.fields)])
    ++ if q.sort.isEmpty then [] else [("sort", .array (q.sort.map sortEntry))])

/-- A requested limit if it is at least one, otherwise the default. -/
def limitOr (requested default : Value) : Result Value := do
  match ← coerceInteger requested with
  | some n => .ok (if n < 1 then default else .int n)
  | none => .ok default

/-- Whether a value is the name of a field. -/
def isFieldName : Value → Bool
  | .str s => s != ""
  | _ => false

/-- The order that an item asks for: a name is ascending, an object gives a direction for each of
its names, and anything else asks for nothing. -/
def sortOf : Value → List (String × Direction)
  | .str name => [(name, .asc)]
  | .object _ members => members.map fun (name, v) => (name, .ofValue v .asc)
  | _ => []

/-- The entries of a selector, whose keys are spelled as names. -/
def selectorOf (v : Value) : Result Members := do
  let entries ← Table.entries (v.orElse (.record []))
  .ok (Members.ofEntries
    (← entries.mapM fun (key, value) => do .ok ((← Table.keyText key), value)))

/-- A query from its object form. Anything that is not understood is passed over. -/
def ofMembers (members : Members) (defaultLimit : Value) : Result Query := do
  let limit ← limitOr (Value.member members "limit") defaultLimit
  let fields ← ((Value.member members "fields").orElse (.array [])).elements?
  let sort ← ((Value.member members "sort").orElse (.array [])).elements?
  let selector ← selectorOf (Value.member members "selector")
  .ok (ofSelector selector limit (fields.filter isFieldName) (sort.flatMap sortOf))

/-- A query from its object form. -/
def ofValue (v : Value) (defaultLimit : Value) : Result Query := do
  ofMembers (← v.members?) defaultLimit

end Query

end DocView
