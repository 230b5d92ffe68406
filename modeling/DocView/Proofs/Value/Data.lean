import DocView.Proofs.Value.Form

/-!
# Data

The values that a file can hold are made of null, truth values, integers, texts and doubles, of
plain lists and of plain objects whose names are distinct. Which doubles are among them differs
from one encoding to the other, so it is a parameter.

## Main definitions

* `Value.IsData`
-/

namespace DocView.Value

/-- A value made of null, truth values, integers, texts, doubles of a kind, plain lists and plain
objects with distinct names. -/
inductive IsData (double : Binary64 → Prop) : Value → Prop
  | null : IsData double .null
  | bool (b : Bool) : IsData double (.bool b)
  | int (n : Int) : IsData double (.int n)
  | float {x : Binary64} (allowed : double x) : IsData double (.float x)
  | str (s : String) : IsData double (.str s)
  | list {items : List Value} (data : ∀ v ∈ items, IsData double v) :
    IsData double (.list .plain items)
  | object {members : Members} (distinct : (Members.names members).Nodup)
    (data : ∀ entry ∈ members, IsData double entry.2) : IsData double (.object .plain members)

/-- Data with fewer doubles is data with more. -/
theorem IsData.mono {double double' : Binary64 → Prop} {v : Value}
    (h : ∀ x, double x → double' x) (hv : v.IsData double) : v.IsData double' := by
  induction hv with
  | null => exact .null
  | bool b => exact .bool b
  | int n => exact .int n
  | float allowed => exact .float (h _ allowed)
  | str s => exact .str s
  | list _ ih => exact .list ih
  | object distinct _ ih => exact .object distinct ih

/-- Data is plain. -/
theorem IsData.thaw {double : Binary64 → Prop} {v : Value} (hv : v.IsData double) : v.thaw = v := by
  rw [Value.thaw]
  induction hv with
  | null | bool | int | float | str => rfl
  | list _ ih => rw [withForm_list, List.map_congr_left ih, List.map_id']
  | @object members _ _ ih =>
    have hsame : ∀ entry ∈ members, (entry.1, withForm .plain entry.2) = entry :=
      fun entry he => congrArg (entry.1, ·) (ih entry he)
    rw [withForm_object, List.map_congr_left hsame, List.map_id']

/-- Data is there. -/
theorem IsData.isUnset_eq_false {double : Binary64 → Prop} {v : Value} (hv : v.IsData double) :
    v.isUnset = false := by
  cases hv <;> rfl

theorem IsData.thaw_freeze {double : Binary64 → Prop} {v : Value} (hv : v.IsData double) :
    v.freeze.thaw = v := by
  rw [Value.thaw, freeze, withForm_withForm]
  exact hv.thaw

end DocView.Value
