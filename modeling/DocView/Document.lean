import DocView.Error
import DocView.Text.Numeral
import DocView.Text.Split
import DocView.Value.Order

/-!
# Documents

A document is any value. Its fields are the members of its *body*: a row of a list that carries an
object under `doc` has that object as its body, any other object is its own body, and a value that
is no object has an empty body.

## Looking up a field

A field that the body has under exactly its name is found there. Otherwise a name with points in
it is a path: names lead into objects, and integers, counted from the end if negative, into plain
lists. Where a path leads nowhere the field reads as null.

## Main definitions

* `Document.body`
* `Document.follow` - structural recursion along a path
* `Document.field` - the value of a field
-/

namespace DocView

namespace Document

/-- The fields of a document. -/
def body : Value → Members
  | .object _ members =>
    match Members.get? members "doc" with
    | some (.object _ inner) => inner
    | _ => members
  | _ => []

/-- The body as an object of the form it has in the document. -/
def bodyObject : Value → Value
  | .object form members =>
    match Members.get? members "doc" with
    | some (.object innerForm inner) => .object innerForm inner
    | _ => .object form members
  | _ => .record []

/-- The item of a list at a position, counted from the end if negative. -/
def itemAt? (items : List Value) (position : Int) : Option Value :=
  if 0 ≤ position then items[position.toNat]?
  else if -position ≤ items.length then items[items.length - position.natAbs]?
  else none

/-- The value at the end of a path, null if the path leads nowhere. -/
def follow : Value → List String → Value
  | v, [] => v
  | .object _ members, part :: rest =>
    match Members.get? members part with
    | some v => follow v rest
    | none => .null
  | .list .plain items, part :: rest =>
    match Text.integer? part with
    | .ok position =>
      match itemAt? items position with
      | some v => follow v rest
      | none => .null
    | .error _ => .null
  | _, _ :: _ => .null

/-- The value of the field with this name. -/
def namedField (document : Value) (name : String) : Value :=
  match Members.get? (body document) name with
  | some v => v
  | none =>
    if name.toList.contains '.' then follow (.record (body document)) (Text.parts '.' name)
    else .null

mutual

/-- The kind of the first part of a value that cannot be the key of a table, if there is one. -/
def unhashable? : Value → Option String
  | .list .plain _ => some "list"
  | .object form members => some (Value.kindName (.object form members))
  | .list .frozen items => unhashableItem? items
  | _ => none

/-- The first such kind among the items of a list. -/
def unhashableItem? : List Value → Option String
  | [] => none
  | v :: rest => (unhashable? v).or (unhashableItem? rest)

end

/-- The value of a field. A field that is not a name cannot be looked up: it is refused, unless
it is a frozen list, which is no member of any body and not a path either. -/
def field (document field : Value) : Result Value :=
  match field with
  | .str name => .ok (namedField document name)
  | _ =>
    match unhashable? field with
    | some kind => .error (.unhashable kind)
    | none =>
      match field with
      | .list _ items =>
        if items.any (Value.equal · (.str ".")) then .error (.noMember "tuple" "split")
        else .ok .null
      | v => .error (.notContainer v.kindName)

end Document

end DocView
