import DocView.Proofs.Binary64.Place
import DocView.Proofs.Value.Form
import DocView.Value.Order

/-!
# Equality across forms

Equality sees the form of a list and not the form of an object. So a frozen copy stands for its
original in every comparison exactly as long as no list is involved, at any depth: a value is
*list-free* if it is no list and has none inside. Changing the form of a list-free value changes
no comparison with it, and a value of JSON that is equal to some frozen copy is list-free.

What keeps a value from being equal to itself is a NaN somewhere in it, and a name that comes twice.
The values of JSON have plain containers and distinct names, and no NaN is among them, so they
are equal to themselves.

## Main definitions

* `Value.isListFree`, `Value.isJson`

## Main results

* `Value.equal_withForm`, `Value.equalItems_map_withForm`
* `Value.equal_list_self_iff`, `Value.equal_object_self_iff`, `Value.equal_scalar_self_iff`
* `Value.equal_self`
* `Value.strictlyEqual_iff`
* `Value.isListFree_of_equal_freeze`
-/

namespace DocView.Value

/-! ### List-free values and values of JSON -/

mutual

/-- Whether a value is no list and has none in it, at any depth. -/
def isListFree : Value → Bool
  | .list _ _ => false
  | .object _ members => areMembersListFree members
  | _ => true

/-- Whether the value of every member is list-free. -/
def areMembersListFree : List (String × Value) → Bool
  | [] => true
  | (_, v) :: rest => isListFree v && areMembersListFree rest

end

mutual

/-- Whether a value is one of JSON: its containers are plain, the names of an object are distinct,
and a double is no NaN. -/
def isJson : Value → Bool
  | .null | .bool _ | .int _ | .str _ => true
  | .float x => !x.isNaN
  | .list form items => form == .plain && areItemsJson items
  | .object form members =>
    form == .plain && decide (Members.names members).Nodup && areMembersJson members
  | .unset | .bytes _ | .date _ | .moment _ => false

/-- Whether every item is a value of JSON. -/
def areItemsJson : List Value → Bool
  | [] => true
  | v :: rest => isJson v && areItemsJson rest

/-- Whether the value of every member is one of JSON. -/
def areMembersJson : List (String × Value) → Bool
  | [] => true
  | (_, v) :: rest => isJson v && areMembersJson rest

end

variable {form : Form} {items : List Value} {members : Members} {x y z : Value}

theorem isListFree_object :
    isListFree (.object form members) ↔ ∀ entry ∈ members, isListFree entry.2 := by
  rw [isListFree]
  induction members with
  | nil => simp [areMembersListFree]
  | cons entry rest ih => rw [areMembersListFree, Bool.and_eq_true, ih, List.forall_mem_cons]

theorem isListFree_of_scalar (hx : x.isContainer = false) : x.isListFree := by
  cases x <;> first | rfl | contradiction

theorem isJson_list :
    isJson (.list form items) ↔ form = .plain ∧ ∀ v ∈ items, isJson v := by
  have hitems : areItemsJson items ↔ ∀ v ∈ items, isJson v := by
    induction items with
    | nil => simp [areItemsJson]
    | cons v rest ih => rw [areItemsJson, Bool.and_eq_true, ih, List.forall_mem_cons]
  rw [isJson, Bool.and_eq_true, hitems, beq_iff_eq]

theorem isJson_array (h : ∀ v ∈ items, isJson v) : isJson (.array items) :=
  isJson_list.mpr ⟨rfl, h⟩

theorem isJson_append {xs ys : List Value} (hxs : ∀ v ∈ xs, isJson v) (hys : ∀ v ∈ ys, isJson v) :
    isJson (.array (xs ++ ys)) :=
  isJson_array (List.forall_mem_append.mpr ⟨hxs, hys⟩)

theorem isJson_object :
    isJson (.object form members)
      ↔ form = .plain ∧ (Members.names members).Nodup ∧ ∀ entry ∈ members, isJson entry.2 := by
  have hmembers : areMembersJson members ↔ ∀ entry ∈ members, isJson entry.2 := by
    induction members with
    | nil => simp [areMembersJson]
    | cons entry rest ih => rw [areMembersJson, Bool.and_eq_true, ih, List.forall_mem_cons]
  rw [isJson, Bool.and_eq_true, Bool.and_eq_true, hmembers, beq_iff_eq, decide_eq_true_iff,
    and_assoc]

/-! ### Objects -/

theorem equalMembers_iff {ys : Members} :
    equalMembers members ys
      ↔ ∀ entry ∈ members, ∃ y, Members.get? ys entry.1 = some y ∧ equal entry.2 y := by
  induction members with
  | nil => simp [equalMembers]
  | cons entry rest ih =>
    rw [equalMembers, Bool.and_eq_true, ih, List.forall_mem_cons]
    cases Members.get? ys entry.1 <;> simp

/-- Values that nothing tells apart may stand for one another in an object. -/
theorem equalMembers_map {f : Value → Value} {ys : Members}
    (hf : ∀ entry ∈ ys, ∀ x, equal x (f entry.2) = equal x entry.2) :
    equalMembers members (ys.map fun entry => (entry.1, f entry.2)) = equalMembers members ys := by
  induction members with
  | nil => rfl
  | cons entry rest ih =>
    rw [equalMembers, equalMembers, ih, Members.get?_map]
    cases hget : Members.get? ys entry.1 with
    | none => rfl
    | some y =>
      have hequal := hf (entry.1, y) (Members.mem_of_get? hget) entry.2
      exact congrArg (· && equalMembers rest ys) hequal

/-! ### Forms that equality does not see -/

/-- **The form of a list-free value changes no comparison.** -/
theorem equal_withForm (form : Form) (hy : y.isListFree) (x : Value) :
    equal x (withForm form y) = equal x y := by
  induction y using containerInduction generalizing x with
  | list => contradiction
  | object _ members ih =>
    have hfree : ∀ entry ∈ members, ∀ x, equal x (withForm form entry.2) = equal x entry.2 :=
      fun entry hentry => ih entry hentry (isListFree_object.mp hy entry hentry)
    rw [withForm_object]
    cases x with
    | object _ xs => rw [equal, equal, List.length_map, equalMembers_map hfree]
    | _ => rfl
  | scalar y hscalar => rw [withForm_of_scalar hscalar]

theorem equalItems_map_withForm (form : Form) {ys : List Value} (hys : ∀ y ∈ ys, y.isListFree)
    (xs : List Value) : equalItems xs (ys.map (withForm form)) = equalItems xs ys := by
  induction ys generalizing xs with
  | nil => rfl
  | cons y ys ih =>
    obtain ⟨hy, hrest⟩ := List.forall_mem_cons.mp hys
    cases xs with
    | nil => rfl
    | cons x xs => rw [List.map_cons, equalItems, equalItems, equal_withForm form hy, ih hrest]

/-! ### Values and themselves -/

/-- A list is equal to itself if and only if its items are. -/
theorem equal_list_self_iff :
    equal (.list form items) (.list form items) ↔ ∀ v ∈ items, equal v v := by
  rw [equal, beq_self_eq_true, Bool.true_and]
  induction items with
  | nil => exact iff_of_true rfl (List.forall_mem_nil _)
  | cons v rest ih => rw [equalItems, Bool.and_eq_true, ih, List.forall_mem_cons]

/-- An object is equal to itself if and only if its members are, as long as they have names of
their own. -/
theorem equal_object_self_iff (hnd : (Members.names members).Nodup) :
    equal (.object form members) (.object form members)
      ↔ ∀ entry ∈ members, equal entry.2 entry.2 := by
  rw [equal, beq_self_eq_true, Bool.true_and, equalMembers_iff]
  refine forall₂_congr fun entry hentry => ?_
  rw [Members.get?_eq_some_of_mem hnd hentry]
  simp

/-- Whatever is no container is equal to itself, unless it is a NaN. -/
theorem equal_scalar_self_iff (hx : x.isContainer = false) :
    equal x x ↔ ∀ y, x = .float y → y.isNaN = false := by
  cases x with
  | float y =>
    cases hnan : y.isNaN with
    | true =>
      have hplace : y.place? = none := by rw [Binary64.place?, hnan, if_pos rfl]
      simp [equal, samePlace, place?, hplace, hnan]
    | false =>
      obtain ⟨p, hp⟩ := Option.isSome_iff_exists.mp (Binary64.place?_isSome hnan)
      simp [equal, samePlace, place?, hp, hnan]
  | moment m => simp [equal, Moment.same, Moment.keys?]
  | list | object => contradiction
  | _ => simp [equal, samePlace, place?]

/-- A value of JSON is equal to itself. -/
theorem equal_self (hx : x.isJson) : equal x x := by
  induction x using containerInduction with
  | list form items ih =>
    obtain ⟨-, hitems⟩ := isJson_list.mp hx
    exact equal_list_self_iff.mpr fun v hv => ih v hv (hitems v hv)
  | object form members ih =>
    obtain ⟨-, hnd, hmembers⟩ := isJson_object.mp hx
    exact (equal_object_self_iff hnd).mpr fun entry he => ih entry he (hmembers entry he)
  | scalar v hscalar =>
    refine (equal_scalar_self_iff hscalar).mpr ?_
    rintro y rfl
    simpa [isJson] using hx

/-! ### Strict equality -/

theorem strictlyEqual_iff : x.strictlyEqual y ↔ x.isBool = y.isBool ∧ equal x y := by
  rw [strictlyEqual]
  cases x.isBool <;> cases y.isBool <;> simp

/-! ### Equals of frozen copies -/

/-- **What is equal to a frozen copy is list-free**: a plain list has no equal among frozen
lists. -/
theorem isListFree_of_equal_freeze (hx : x.isJson) (h : equal x z.freeze) : x.isListFree := by
  induction x using containerInduction generalizing z with
  | list form items =>
    obtain ⟨rfl, -⟩ := isJson_list.mp hx
    cases z <;> simp [freeze, withForm, equal, samePlace, place?] at h
  | object form members ih =>
    obtain ⟨-, -, hmembers⟩ := isJson_object.mp hx
    cases z with
    | object _ others =>
      rw [freeze, withForm_object, equal, Bool.and_eq_true, equalMembers_iff] at h
      refine isListFree_object.mpr fun entry hentry => ?_
      obtain ⟨y, hy, hequal⟩ := h.2 entry hentry
      rw [Members.get?_map] at hy
      obtain ⟨z, -, rfl⟩ := Option.map_eq_some_iff.mp hy
      exact ih entry hentry (hmembers entry hentry) hequal
    | _ => simp [freeze, withForm, equal, samePlace, place?] at h
  | scalar x hscalar => exact isListFree_of_scalar hscalar

theorem isListFree_of_equalItems {xs zs : List Value} (hxs : ∀ x ∈ xs, x.isJson)
    (h : equalItems xs (zs.map freeze)) : ∀ x ∈ xs, x.isListFree := by
  induction xs generalizing zs with
  | nil => exact List.forall_mem_nil _
  | cons x xs ih =>
    cases zs with
    | nil => contradiction
    | cons z zs =>
      rw [List.map_cons, equalItems, Bool.and_eq_true] at h
      obtain ⟨hx, hrest⟩ := List.forall_mem_cons.mp hxs
      exact List.forall_mem_cons.mpr ⟨isListFree_of_equal_freeze hx h.1, ih hrest h.2⟩

end DocView.Value
