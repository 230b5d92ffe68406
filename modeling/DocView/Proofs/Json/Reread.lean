import DocView.Proofs.Json.Data
import DocView.Proofs.Json.Double

/-!
# What was read is read back

A value that the reader has made can be written, and it is of the kind that is read back from what
was written. Nothing has to be assumed of the value: integers that are too long to be written have
been refused by the reader already, every double that it makes is read back, and a name that came
twice in the text is in the value once.

This is not so of the read-only copy of such a value. Lists are written alike in both forms, but a
read-only object is foreign to JSON. So a read-only copy can be written if and only if there is no
object in it, at any depth, and then it is written as the value is.

## Main definitions

* `Value.isObjectFree`

## Main results

* `Json.IsRead.unwritable?_eq_none`, `Json.IsRead.isData_readsDouble` - what was read can be
  written, and its doubles are read back
* `Json.unwritable?_freeze_eq_none_iff`, `Json.renderAt_thaw`
-/

namespace DocView

/-! ### Values without objects -/

namespace Value

mutual

/-- Whether a value is no object and has none in it, at any depth. -/
def isObjectFree : Value → Bool
  | .list _ items => areItemsObjectFree items
  | .object _ _ => false
  | _ => true

/-- Whether every item is free of objects. -/
def areItemsObjectFree : List Value → Bool
  | [] => true
  | v :: rest => isObjectFree v && areItemsObjectFree rest

end

variable {form : Form} {items : List Value} {v : Value}

theorem isObjectFree_list :
    isObjectFree (.list form items) ↔ ∀ v ∈ items, isObjectFree v := by
  rw [isObjectFree]
  induction items with
  | nil => simp [areItemsObjectFree]
  | cons v rest ih => rw [areItemsObjectFree, Bool.and_eq_true, ih, List.forall_mem_cons]

theorem isObjectFree_withForm (form : Form) (v : Value) :
    (v.withForm form).isObjectFree = v.isObjectFree := by
  induction v using containerInduction with
  | list given items ih =>
    rw [withForm_list, Bool.eq_iff_iff, isObjectFree_list, isObjectFree_list, List.forall_mem_map]
    exact forall₂_congr fun v hv => by rw [ih v hv]
  | object => rfl
  | scalar v hv => rw [withForm_of_scalar hv]

end Value

namespace Json

variable {style : Style} {items : List Value} {v part : Value}

/-! ### Values that were read -/

/-- What was read can be written. -/
theorem IsRead.unwritable?_eq_none (h : IsRead v) : unwritable? v = none := by
  induction h with
  | null | bool | float | str => rw [unwritable?]
  | int short => rw [unwritable?, if_neg (by simp [short])]
  | list _ ih =>
    rw [unwritable?, unwritableItem?_eq_none_iff]
    exact ih
  | object _ _ ih =>
    rw [unwritable?, unwritableMember?_eq_none_iff]
    exact ih

/-- The doubles that were read are read back. -/
theorem IsRead.isData_readsDouble (h : IsRead v) : v.IsData ReadsDouble := by
  induction h with
  | null => exact .null
  | bool b => exact .bool b
  | int _ => exact .int _
  | float named => exact .float (readsDouble named)
  | str s => exact .str s
  | list _ ih => exact .list ih
  | object distinct _ ih => exact .object distinct ih

/-! ### Read-only copies -/

theorem unwritableItem?_eq_findSome? (items : List Value) :
    unwritableItem? items = items.findSome? unwritable? := by
  induction items with
  | nil => rfl
  | cons v rest ih =>
    rw [unwritableItem?, ih, List.findSome?_cons]
    cases unwritable? v <;> rfl

/-- A read-only copy of what was read can be written exactly if there is no object in it. -/
theorem unwritable?_freeze_eq_none_iff (h : IsRead v) :
    unwritable? v.freeze = none ↔ v.isObjectFree := by
  rw [Value.freeze]
  induction h with
  | null | bool | float | str => simp [Value.withForm, unwritable?, Value.isObjectFree]
  | int short => simp [Value.withForm, unwritable?, Value.isObjectFree, short]
  | list _ ih =>
    rw [Value.withForm_list, unwritable?, unwritableItem?_eq_none_iff, List.forall_mem_map,
      Value.isObjectFree_list]
    exact forall₂_congr ih
  | object => simp [Value.withForm_object, unwritable?, Value.isObjectFree]

/-- Where it cannot be written, an object is in the way. -/
theorem isObject_of_unwritable?_freeze (h : IsRead v) (hpart : unwritable? v.freeze = some part) :
    ∃ members, part = .object .frozen members := by
  rw [Value.freeze] at hpart
  induction h with
  | null | bool | float | str => simp [Value.withForm, unwritable?] at hpart
  | int short => simp [Value.withForm, unwritable?, short] at hpart
  | list _ ih =>
    rw [Value.withForm_list, unwritable?, unwritableItem?_eq_findSome?] at hpart
    obtain ⟨w, hw, hfound⟩ := List.exists_of_findSome?_eq_some hpart
    obtain ⟨v, hv, rfl⟩ := List.mem_map.mp hw
    exact ih v hv hfound
  | object =>
    rw [Value.withForm_object, unwritable?] at hpart
    · exact ⟨_, (Option.some.inj hpart).symm⟩
    all_goals simp

/-- Without objects, both forms are written alike. -/
theorem renderAt_thaw (hv : v.isObjectFree) (depth : Nat) :
    renderAt style depth v.thaw = renderAt style depth v := by
  rw [Value.thaw]
  induction v using Value.containerInduction generalizing depth with
  | list form items ih =>
    rw [Value.withForm_list, renderAt, renderAt, renderItems_eq_map, renderItems_eq_map,
      List.map_map]
    have hitems := Value.isObjectFree_list.mp hv
    exact congrArg _ (List.map_congr_left fun v hmem => ih v hmem (hitems v hmem) (depth + 1))
  | object => contradiction
  | scalar v hscalar => rw [Value.withForm_of_scalar hscalar]

end Json

end DocView
