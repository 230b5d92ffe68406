import DocView.Error
import DocView.Store.Supply

/-!
# Saved queries

A saved query is a record: an identifier, the times of its creation and of its last change, and
whatever members its author gave it. Identifier and times belong to the store; an author cannot
set them, except by importing whole records.

## Main definitions

* `SavedQuery`, `SavedQuery.toValue`, `SavedQuery.ofMembers`
-/

namespace DocView

/-- A saved query. -/
structure SavedQuery where
  id : String
  createdAt : Value
  updatedAt : Value
  attributes : Members
deriving Repr, Inhabited

namespace SavedQuery

/-- The names that belong to the store. -/
def reserved : List String := ["id", "createdAt", "updatedAt"]

/-- The members that belong to the author. -/
def authorMembers (members : Members) : Members := Members.without members reserved

/-- The name that the author gave. -/
def name (q : SavedQuery) : Value := Value.member q.attributes "name"

/-- The flat form of a record. -/
def toMembers (q : SavedQuery) : Members :=
  ("id", .str q.id) :: q.attributes ++ [("createdAt", q.createdAt), ("updatedAt", q.updatedAt)]

/-- The flat form of a record as a value. -/
def toValue (q : SavedQuery) : Value := .record q.toMembers

/-- A record from its flat form. The clock is read once; an identifier is taken only if the record
has none. -/
def ofMembers (members : Members) (supply : Supply) : SavedQuery × Supply :=
  let (now, supply) := supply.now
  let createdAt := (Value.member members "createdAt").orElse (.str now)
  let given := Value.member members "id"
  let (id, supply) := if given.truthy then (given.display, supply) else supply.freshId
  (⟨id, createdAt, (Value.member members "updatedAt").orElse createdAt, authorMembers members⟩,
    supply)

end SavedQuery

end DocView
