import DocView.Proofs.Value.Members

/-!
# Plain and frozen copies

Giving every container of a value one form changes nothing but the forms: the copy of a list has
the copies of its items, the copy of an object the copies of its members under the same names, and
whatever is no container is its own copy. The last form given is the one that counts, so a frozen
copy that is thawed and frozen again is the frozen copy it was.

A value is *plain* if it is its own plain copy.

## Main definitions

* `Value.isContainer`

## Main results

* `Value.containerInduction` - induction over lists and objects
* `Value.withFormItems_eq_map`, `Value.withFormMembers_eq_map`
* `Value.withForm_withForm` - the last form counts
* `Value.truthy_withForm`, `Members.names_withFormMembers` - what does not see the form
-/

namespace DocView

namespace Value

/-- Whether a value is a list or an object, of either form. -/
def isContainer : Value → Bool
  | .list _ _ | .object _ _ => true
  | _ => false

variable {form : Form}

/-- Induction over values by their containers: a claim about a list or an object may use the claim
about everything directly in it, and whatever is neither is one case. -/
@[elab_as_elim]
theorem containerInduction {motive : Value → Prop}
    (list : ∀ form items, (∀ v ∈ items, motive v) → motive (.list form items))
    (object : ∀ form members, (∀ entry ∈ members, motive entry.2) → motive (.object form members))
    (scalar : ∀ v, v.isContainer = false → motive v) : ∀ v, motive v
  | .list form items => list form items fun v _ => containerInduction list object scalar v
  | .object form members =>
    object form members fun entry _ => containerInduction list object scalar entry.2
  | .null | .unset | .bool _ | .int _ | .float _ | .str _ | .bytes _ | .date _ | .moment _ =>
    scalar _ rfl
termination_by v => sizeOf v
decreasing_by
  · have := List.sizeOf_lt_of_mem ‹_›
    simp
    omega
  · have := List.sizeOf_lt_of_mem ‹_›
    cases entry
    simp at this ⊢
    omega

theorem withFormItems_eq_map (form : Form) (items : List Value) :
    withFormItems form items = items.map (withForm form) := by
  induction items with
  | nil => rfl
  | cons v rest ih => rw [withFormItems, ih, List.map_cons]

theorem withFormMembers_eq_map (form : Form) (members : Members) :
    withFormMembers form members = members.map fun entry => (entry.1, withForm form entry.2) := by
  induction members with
  | nil => rfl
  | cons entry rest ih => rw [withFormMembers, ih, List.map_cons]

@[simp] theorem withForm_list (form given : Form) (items : List Value) :
    withForm form (.list given items) = .list form (items.map (withForm form)) := by
  rw [withForm, withFormItems_eq_map]

@[simp] theorem withForm_object (form given : Form) (members : Members) :
    withForm form (.object given members)
      = .object form (members.map fun entry => (entry.1, withForm form entry.2)) := by
  rw [withForm, withFormMembers_eq_map]

/-- A value that is neither a list nor an object is its own copy. -/
theorem withForm_of_scalar {v : Value} (hv : v.isContainer = false) : withForm form v = v := by
  cases v <;> first | rfl | contradiction

/-! ### The last form counts -/

theorem withForm_withForm (form given : Form) (v : Value) :
    withForm form (withForm given v) = withForm form v := by
  induction v using containerInduction with
  | list _ items ih =>
    rw [withForm_list, withForm_list, withForm_list, List.map_map]
    exact congrArg (Value.list form) (List.map_congr_left ih)
  | object _ members ih =>
    have hmembers : members.map (fun entry => (entry.1, withForm form (withForm given entry.2)))
        = members.map fun entry => (entry.1, withForm form entry.2) :=
      List.map_congr_left fun entry hentry => by rw [ih entry hentry]
    rw [withForm_object, withForm_object, withForm_object, List.map_map, ← hmembers]
    rfl
  | scalar v hv => rw [withForm_of_scalar hv]

theorem withFormMembers_withFormMembers (form given : Form) (members : Members) :
    withFormMembers form (withFormMembers given members) = withFormMembers form members := by
  have hobject := withForm_withForm form given (.record members)
  rw [withForm, withForm, withForm] at hobject
  exact (object.inj hobject).2

/-! ### What does not see the form -/

@[simp] theorem truthy_withForm (form : Form) (v : Value) :
    (withForm form v).truthy = v.truthy := by
  cases v
  case list given items => cases items <;> rfl
  case object given members => cases members <;> rfl
  all_goals rfl

@[simp] theorem isNull_withForm (form : Form) (v : Value) :
    (withForm form v).isNull = v.isNull := by
  cases v <;> rfl

@[simp] theorem isUnset_withForm (form : Form) (v : Value) :
    (withForm form v).isUnset = v.isUnset := by
  cases v <;> rfl

@[simp] theorem isContainer_withForm (form : Form) (v : Value) :
    (withForm form v).isContainer = v.isContainer := by
  cases v <;> rfl

theorem isContainer_freeze {v : Value} (hv : v.isContainer) : v.freeze.isContainer :=
  (isContainer_withForm .frozen v).trans hv

@[simp] theorem isObject_withForm (form : Form) (v : Value) :
    (withForm form v).isObject = v.isObject := by
  cases v <;> rfl

theorem hasObject_list {items : List Value} :
    (Value.list form items).hasObject = false ↔ ∀ v ∈ items, v.hasObject = false := by
  rw [hasObject]
  induction items with
  | nil => simp [anyObject]
  | cons v rest ih => simp [anyObject, ih]

@[simp] theorem hasObject_withForm (form : Form) (v : Value) :
    (withForm form v).hasObject = v.hasObject := by
  induction v using containerInduction with
  | list given items ih =>
    have hitems : (∀ w ∈ items.map (withForm form), w.hasObject = false)
        ↔ ∀ w ∈ items, w.hasObject = false := by
      rw [List.forall_mem_map]
      exact forall₂_congr fun w hw => by rw [ih w hw]
    rw [withForm_list, Bool.eq_iff_iff, ← not_iff_not, Bool.not_eq_true, Bool.not_eq_true,
      hasObject_list, hasObject_list, hitems]
  | object => rfl
  | scalar v hv => rw [withForm_of_scalar hv]

end Value

namespace Members

theorem names_withFormMembers (form : Form) (members : Members) :
    names (Value.withFormMembers form members) = names members := by
  rw [Value.withFormMembers_eq_map, names, names, List.map_map]
  rfl

end Members

end DocView
