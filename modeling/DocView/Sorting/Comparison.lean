import DocView.Coercion
import DocView.FieldType
import DocView.Text.Decomposition
import DocView.Value.Order
import DocView.Value.Text

/-!
# Comparing values under a type

The order by which documents are sorted. Null comes before everything else, whatever the type.
Under a type, both values are coerced; those that do not convert form one class below all that
do, so values of any kind are in order. Every type that is not a number, a date or a truth value
compares as text.

Texts are compared by a *collation key* of two parts. The first ignores case and accents, so that
an accented word stands beside the plain one; the second ignores case only and decides between
words with the same first part.

## Main definitions

* `collationKey`
* `compareValues`
-/

namespace DocView

/-- The text of a value without case, first without and then with its accents. -/
def collationKey (v : Value) : String × String :=
  let folded := Text.foldCase v.text
  (String.ofList (Text.baseLetters folded.toList), folded)

/-- The order of coerced values; one that did not convert comes first. -/
def compareCoerced {α : Type} (order : α → α → Ordering) : Option α → Option α → Ordering
  | none, none => .eq
  | none, some _ => .lt
  | some _, none => .gt
  | some a, some b => order a b

/-- The order of two numbers by value. -/
def Number.compare (a b : Number) : Ordering := a.place.compare b.place

/-- The order of two doubles that are no NaN. -/
def Binary64.compare (a b : Binary64) : Ordering :=
  match a.place?, b.place? with
  | some p, some q => p.compare q
  | _, _ => .eq

/-- The truth value by which a value is sorted. -/
def sortBoolean (v : Value) : Bool := (coerceBoolean v).getD v.truthy

/-- The order of two truth values, false first. -/
def compareBool : Bool → Bool → Ordering
  | false, true => .lt
  | true, false => .gt
  | _, _ => .eq

/-- The order of two collation keys: the first parts decide, then the second. -/
def compareKeys (a b : String × String) : Ordering :=
  (compareText a.1 b.1).then (compareText a.2 b.2)

/-- The order of two values that are not null under a type. -/
def comparePresent (type : FieldType) (a b : Value) : Ordering :=
  match type with
  | .number => compareCoerced Number.compare (coerceNumber a) (coerceNumber b)
  | .date =>
    compareCoerced Binary64.compare ((coerceDate a).map Moment.millis)
      ((coerceDate b).map Moment.millis)
  | .boolean => compareBool (sortBoolean a) (sortBoolean b)
  | _ => compareKeys (collationKey a) (collationKey b)

/-- The order of two values under a type. -/
def compareValues (type : FieldType) (a b : Value) : Ordering :=
  match a.isNull, b.isNull with
  | true, true => .eq
  | true, false => .lt
  | false, true => .gt
  | false, false => comparePresent type a b

end DocView
