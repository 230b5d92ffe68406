import DocView.Proofs.Json.Data
import DocView.Server.Rendering

/-!
# What rendering does to a value

Whoever reads a body that went through a declared form finds null where there was a number that
JSON does not have, and everything else as it was. A value is changed only if there is such a number
in it, and what is found is a value of JSON whatever was sent. Nesting is counted along the way down
and no container is left out, so bounds pass from a container to its parts and back.

Theorems about answers ask two things of a rendering, for which `Server.Rendering.Declares` is a
name.

## Main definitions

* `Server.Rendering.Declares`

## Main results

* `Value.nulled_eq_self`, `Value.isFinite_nulled`, `Value.isJson_nulled`, `Value.nulled_withForm`
* `Value.depth_list_le_iff`, `Value.depth_object_le_iff`
* `Server.Rendering.declares_standard`
-/

namespace DocView

namespace Value

variable {form : Form} {items : List Value} {members : Members} {v : Value} {n : Nat}

/-! ### Numbers that JSON does not have -/

@[simp] theorem nulled_list (form : Form) (items : List Value) :
    (Value.list form items).nulled = .list form (items.map nulled) := by
  rw [nulled]
  congr 1
  induction items with
  | nil => rfl
  | cons v rest ih => rw [nulledItems, ih, List.map_cons]

@[simp] theorem nulled_object (form : Form) (members : Members) :
    (Value.object form members).nulled
      = .object form (members.map fun entry => (entry.1, entry.2.nulled)) := by
  rw [nulled]
  congr 1
  induction members with
  | nil => rfl
  | cons entry rest ih => rw [nulledMembers, ih, List.map_cons]

theorem nulled_float_of_not_isFinite {x : Binary64} (hx : ¬ (Value.float x).IsFinite) :
    (Value.float x).nulled = .null := by
  rw [nulled, isFinite_eq_false_of_not hx]
  rfl

/-- What is finite is rendered as it is. -/
theorem nulled_eq_self (hv : v.IsFinite) : v.nulled = v := by
  induction v using containerInduction with
  | list form items ih =>
    have hitems := isFinite_list_iff.mp hv
    rw [nulled_list, List.map_congr_left fun w hw => ih w hw (hitems w hw), List.map_id']
  | object form members ih =>
    have hmembers := isFinite_object_iff.mp hv
    have hsame : ∀ entry ∈ members, (entry.1, entry.2.nulled) = entry :=
      fun entry he => congrArg (entry.1, ·) (ih entry he (hmembers entry he))
    rw [nulled_object, List.map_congr_left hsame, List.map_id']
  | scalar v hv' =>
    cases v with
    | float x => rw [nulled, if_pos (isFinite_float_iff.mp hv)]
    | list | object => contradiction
    | _ => rfl

/-- What is rendered is finite. -/
theorem isFinite_nulled (v : Value) : v.nulled.IsFinite := by
  induction v using containerInduction with
  | list form items ih =>
    rw [nulled_list]
    exact isFinite_list_iff.mpr (List.forall_mem_map.mpr ih)
  | object form members ih =>
    rw [nulled_object]
    exact isFinite_object_iff.mpr (List.forall_mem_map.mpr ih)
  | scalar v hv =>
    cases v with
    | float x =>
      rw [nulled]
      split
      next hx => exact isFinite_float_iff.mpr hx
      next => rfl
    | list | object => contradiction
    | _ => rfl

/-- Rendering and change of form do not meet. -/
theorem nulled_withForm (form : Form) (v : Value) :
    (v.withForm form).nulled = v.nulled.withForm form := by
  induction v using containerInduction with
  | list _ items ih =>
    rw [withForm_list, nulled_list, nulled_list, withForm_list, List.map_map, List.map_map]
    exact congrArg (Value.list form) (List.map_congr_left ih)
  | object _ members ih =>
    rw [withForm_object, nulled_object, nulled_object, withForm_object, List.map_map, List.map_map]
    exact congrArg (Value.object form)
      (List.map_congr_left fun entry he => congrArg (entry.1, ·) (ih entry he))
  | scalar v hv =>
    have hscalar : v.nulled.isContainer = false := by
      cases v with
      | float x =>
        rw [nulled]
        split <;> rfl
      | list | object => contradiction
      | _ => rfl
    rw [withForm_of_scalar hv, withForm_of_scalar hscalar]

/-- What is rendered of data is a value of JSON. -/
theorem isJson_nulled (hv : v.IsAnyData) : v.nulled.isJson := by
  induction hv with
  | null | bool | int | str => rfl
  | @float x _ =>
    rw [nulled]
    split
    next hx => exact (IsData.float trivial).isJson (isFinite_float_iff.mpr hx)
    next => rfl
  | list _ ih =>
    rw [nulled_list]
    exact isJson_list.mpr ⟨rfl, List.forall_mem_map.mpr ih⟩
  | @object members distinct _ ih =>
    have hnames : Members.names (members.map fun entry => (entry.1, entry.2.nulled))
        = Members.names members := by
      simp [Members.names]
    rw [nulled_object]
    exact isJson_object.mpr ⟨rfl, hnames ▸ distinct, List.forall_mem_map.mpr ih⟩

/-! ### Nesting -/

theorem depth_list_le_iff : (Value.list form items).depth ≤ n + 1 ↔ ∀ v ∈ items, v.depth ≤ n := by
  have hitems : itemsDepth items ≤ n ↔ ∀ v ∈ items, v.depth ≤ n := by
    induction items with
    | nil => simp [itemsDepth]
    | cons v rest ih => rw [itemsDepth, Nat.max_le, ih, List.forall_mem_cons]
  rw [depth, Nat.add_le_add_iff_right, hitems]

theorem depth_object_le_iff :
    (Value.object form members).depth ≤ n + 1 ↔ ∀ entry ∈ members, entry.2.depth ≤ n := by
  have hmembers : membersDepth members ≤ n ↔ ∀ entry ∈ members, entry.2.depth ≤ n := by
    induction members with
    | nil => simp [membersDepth]
    | cons entry rest ih => rw [membersDepth, Nat.max_le, ih, List.forall_mem_cons]
  rw [depth, Nat.add_le_add_iff_right, hmembers]

end Value

namespace Server.Rendering

/-- What is asked of a rendering where levels of a body are declared. -/
structure Declares (rendering : Rendering) (limit : Nat) : Prop where
  /-- A body is sent unless it is nested too deeply below these levels. -/
  sent : ∀ {levels : Nat} {v : Value}, v.depth ≤ levels + limit →
    ∃ w, rendering (some levels) v = .ok w
  /-- What is sent is the body with null for the numbers that JSON does not have. -/
  nulled : ∀ {levels : Nat} {v w : Value}, rendering (some levels) v = .ok w → w = v.nulled

theorem declares_standard : standard.Declares maxDepth where
  sent := by
    intro levels v hv
    exact ⟨v.nulled, if_neg (Nat.not_lt.mpr hv)⟩
  nulled := by
    intro levels v w h
    unfold standard at h
    dsimp only at h
    split at h
    · cases h
    · exact (Except.ok.inj h).symm

namespace Declares

variable {rendering : Rendering} {limit levels : Nat} {v : Value}

/-- A body that is not nested too deeply is sent. -/
theorem eq_ok (h : rendering.Declares limit) (hv : v.depth ≤ levels + limit) :
    rendering (some levels) v = .ok v.nulled := by
  obtain ⟨w, hw⟩ := h.sent hv
  rw [hw, h.nulled hw]

end Declares

end Server.Rendering

end DocView
