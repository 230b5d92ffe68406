import DocView.Value.Basic

/-!
# Equality and order of values

Two values are *equal* if they denote the same thing: truth values count as the numbers zero and
one, an integer and a double are equal when they are the same number, lists are equal item by
item if they have the same form, and objects are equal if they have equal values under the same
names, whatever the order of the names.

Only some pairs have an order: two numbers, two texts, two byte strings, two dates, two moments
of which both or neither are local, and two lists of the same form. Lists are ordered by the
first items that are not equal. `holds?` answers `none` for a pair without an order.

A NaN is unequal to everything and stands in no order relation, but it is a number, so asking is
no error.

## Main definitions

* `Value.place?` - a number's place among all numbers
* `Value.equal`, `Value.strictlyEqual`
* `Relation`, `Value.holds?`
-/

namespace DocView

/-- One of the four order relations. -/
inductive Relation where
  | less
  | lessOrEqual
  | greater
  | greaterOrEqual
deriving DecidableEq, Repr

/-- Whether the relation holds of two things of which the first comes before, with or after the
second. -/
def Relation.accepts : Relation → Ordering → Bool
  | .less, .lt => true
  | .lessOrEqual, .lt | .lessOrEqual, .eq => true
  | .greater, .gt => true
  | .greaterOrEqual, .gt | .greaterOrEqual, .eq => true
  | _, _ => false

/-- The order of two places. -/
def Binary64.Place.compare (a b : Binary64.Place) : Ordering :=
  if a.lt b then .lt else if b.lt a then .gt else .eq

/-- The order of two texts by code points. -/
def compareText (a b : String) : Ordering :=
  if a < b then .lt else if b < a then .gt else .eq

namespace Value

/-- The place of a number: `none` for a value that is not a number and `some none` for a NaN.
Truth values are the numbers zero and one. -/
def place? : Value → Option (Option Binary64.Place)
  | .bool b => some (some (.ofInt (if b then 1 else 0)))
  | .int n => some (some (.ofInt n))
  | .float x => some x.place?
  | _ => none

/-- Whether two values are numbers at the same place. -/
def samePlace (a b : Value) : Bool :=
  match a.place?, b.place? with
  | some (some p), some (some q) => p == q
  | _, _ => false

mutual

/-- Equality of values. -/
def equal : Value → Value → Bool
  | .null, .null => true
  | .unset, .unset => true
  | .str s, .str t => s == t
  | .bytes s, .bytes t => s == t
  | .date d, .date e => d == e
  | .moment m, .moment n => m.same n
  | .list f xs, .list g ys => f == g && equalItems xs ys
  | .object _ xs, .object _ ys => xs.length == ys.length && equalMembers xs ys
  | a, b => samePlace a b

/-- Equality of lists, item by item. -/
def equalItems : List Value → List Value → Bool
  | [], [] => true
  | x :: xs, y :: ys => equal x y && equalItems xs ys
  | _, _ => false

/-- Whether every member has an equal value under the same name in the other object. -/
def equalMembers : List (String × Value) → List (String × Value) → Bool
  | [], _ => true
  | (name, x) :: xs, ys =>
    (match Members.get? ys name with
      | some y => equal x y
      | none => false) && equalMembers xs ys

end

/-- Equality that keeps truth values and numbers apart, at the top only. -/
def strictlyEqual (a b : Value) : Bool :=
  if a.isBool != b.isBool then false else equal a b

mutual

/-- Whether two values stand in an order relation; `none` if they have no order. -/
def holds? (r : Relation) : Value → Value → Option Bool
  | .str s, .str t => some (r.accepts (compareText s t))
  | .bytes s, .bytes t => some (r.accepts (compare s t))
  | .date d, .date e => some (r.accepts (compare d.dayNumber e.dayNumber))
  | .moment m, .moment n => (m.keys? n).map fun (x, y) => r.accepts (compare x y)
  | .list f xs, .list g ys => if f = g then itemsHold? r xs ys else none
  | a, b =>
    match a.place?, b.place? with
    | some (some p), some (some q) => some (r.accepts (p.compare q))
    | some _, some _ => some false
    | _, _ => none

/-- The order of two lists is that of the first items that are not equal; a list that ends before
such items comes first. -/
def itemsHold? (r : Relation) : List Value → List Value → Option Bool
  | [], [] => some (r.accepts .eq)
  | [], _ :: _ => some (r.accepts .lt)
  | _ :: _, [] => some (r.accepts .gt)
  | x :: xs, y :: ys => if equal x y then itemsHold? r xs ys else holds? r x y

end

end Value

end DocView
