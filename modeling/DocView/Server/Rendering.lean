import DocView.Json.Writer

/-!
# Rendering of bodies

The last step of an answer writes its body as JSON, and that may fail when everything else is done.
There are two ways. A body that stands as it is must not hold a number that JSON does not have. The
body of a service that declares a form for its responses goes through that form: null is written in
the place of such a number, but what lies below the form must not be nested too deeply.

How bodies are written is not a matter of the server, so it is a parameter of what the server
answers. `Rendering.standard` is how it is done.

## Main definitions

* `Value.nulled`, `Value.depth`
* `Server.Rendering`, `Server.Rendering.standard`
-/

namespace DocView

namespace Value

/-! ### Numbers that JSON does not have -/

mutual

/-- The value with null in the place of every number that JSON does not have. -/
def nulled : Value → Value
  | .float x => if x.isFinite then .float x else .null
  | .list form items => .list form (nulledItems items)
  | .object form members => .object form (nulledMembers members)
  | v => v

/-- The items of a list, each with null in the place of numbers that JSON does not have. -/
def nulledItems : List Value → List Value
  | [] => []
  | v :: rest => nulled v :: nulledItems rest

/-- The members of an object, each with null in the place of numbers that JSON does not have. -/
def nulledMembers : List (String × Value) → List (String × Value)
  | [] => []
  | (name, v) :: rest => (name, nulled v) :: nulledMembers rest

end

/-! ### Nesting -/

mutual

/-- How many levels deep a value is. What has no parts is one level deep. -/
def depth : Value → Nat
  | .list _ items => itemsDepth items + 1
  | .object _ members => membersDepth members + 1
  | _ => 1

/-- How many levels deep the items of a list are. -/
def itemsDepth : List Value → Nat
  | [] => 0
  | v :: rest => max (depth v) (itemsDepth rest)

/-- How many levels deep the members of an object are. -/
def membersDepth : List (String × Value) → Nat
  | [] => 0
  | (_, v) :: rest => max (depth v) (membersDepth rest)

end

end Value

namespace Server

/-- Renders bodies: of the number of levels that the form declares which a body has to go through,
if there is a form, and of a body, the value that a client will read, or the reason why it cannot
be written. -/
abbrev Rendering := Option Nat → Value → Except String Value

namespace Rendering

/-- How many levels deep a value may be below a declared form. -/
def maxDepth : Nat := 255

/-- How bodies are rendered. -/
def standard : Rendering
  | none, v =>
    if Json.hasNonFinite v then .error "Out of range float values are not JSON compliant" else .ok v
  | some levels, v =>
    if levels + maxDepth < v.depth then
      .error "Error serializing to JSON: ValueError: Circular reference detected (depth exceeded)"
    else .ok v.nulled

end Rendering

end Server

end DocView
