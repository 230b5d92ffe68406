import DocView.Proofs.Value.Equality

/-!
# Order across forms

The order of two lists is decided by their first items that are not equal, so it meets the forms of
the items twice: in equality, while it looks for the place, and in the order of the two items
there. A frozen copy of a list of JSON therefore compares like the original until the first item
that is not list-free. There the search stops, since nothing plain is equal to that item's copy,
and the two items have no order.

That stop can go unnoticed in one relation only. Nothing comes *before* an object or an empty list
- an object has no order at all, and an empty list is first among lists - so a last item of either
kind makes no difference to the lists that come before.

## Main results

* `Value.holds?_withForm`, `Value.itemsHold?_map_withForm` - list-free values
* `Value.itemsHold?_freeze_eq_none` - the first item that is not list-free stops the comparison
* `Value.less_freeze_append_iff` - a last item that nothing comes before
-/

namespace DocView.Value

variable {r : Relation} {form : Form} {x y z : Value} {pre items : List Value}

/-! ### List-free values -/

theorem holds?_object (r : Relation) (x : Value) (members : Members) :
    holds? r x (.object form members) = none := by
  cases x <;> simp [holds?, place?]

theorem holds?_withForm (form : Form) (hy : y.isListFree) (x : Value) :
    holds? r x (withForm form y) = holds? r x y := by
  cases y with
  | list => contradiction
  | object _ members => rw [withForm, holds?_object, holds?_object]
  | _ => rfl

theorem itemsHold?_map_withForm (form : Form) (hitems : ∀ y ∈ items, y.isListFree)
    (xs : List Value) : itemsHold? r xs (items.map (withForm form)) = itemsHold? r xs items := by
  induction items generalizing xs with
  | nil => rfl
  | cons y ys ih =>
    obtain ⟨hy, hys⟩ := List.forall_mem_cons.mp hitems
    cases xs with
    | nil => rfl
    | cons x xs =>
      rw [List.map_cons, itemsHold?, itemsHold?, equal_withForm form hy, holds?_withForm form hy,
        ih hys]

/-! ### Lists that start alike -/

/-- What two lists start with does not count. -/
theorem itemsHold?_append (hpre : ∀ v ∈ pre, v.isJson) (xs ys : List Value) :
    itemsHold? r (pre ++ xs) (pre ++ ys) = itemsHold? r xs ys := by
  induction pre with
  | nil => rfl
  | cons v rest ih =>
    obtain ⟨hv, hrest⟩ := List.forall_mem_cons.mp hpre
    rw [List.cons_append, List.cons_append, itemsHold?, if_pos (equal_self hv)]
    exact ih hrest

/-- A list-free value of JSON is equal to its frozen copy. -/
theorem equal_freeze_self (hx : x.isJson) (hfree : x.isListFree) : equal x x.freeze :=
  (equal_withForm .frozen hfree x).trans (equal_self hx)

/-- Nor does it count if one list starts with the frozen copies of what the other starts with, as
long as they are list-free. -/
theorem itemsHold?_append_freeze (hpre : ∀ v ∈ pre, v.isJson) (hfree : ∀ v ∈ pre, v.isListFree)
    (xs ys : List Value) :
    itemsHold? r (pre ++ xs) (pre.map freeze ++ ys) = itemsHold? r xs ys := by
  induction pre with
  | nil => rfl
  | cons v rest ih =>
    obtain ⟨hv, hrest⟩ := List.forall_mem_cons.mp hpre
    obtain ⟨hvfree, hrestfree⟩ := List.forall_mem_cons.mp hfree
    have hself : equal v v.freeze := equal_freeze_self hv hvfree
    rw [List.cons_append, List.map_cons, List.cons_append, itemsHold?, if_pos hself]
    exact ih hrest hrestfree

/-- A value of JSON that is not list-free has no order with its frozen copy. -/
theorem holds?_freeze_eq_none (hx : x.isJson) (hfree : ¬ x.isListFree) :
    holds? r x x.freeze = none := by
  cases x with
  | list form items =>
    obtain ⟨rfl, -⟩ := isJson_list.mp hx
    simp [freeze, withForm, holds?]
  | object _ members => rw [freeze, withForm, holds?_object]
  | _ => exact absurd rfl hfree

/-- **The first item that is not list-free stops the comparison** with a frozen copy, whatever
follows it on either side. -/
theorem itemsHold?_freeze_eq_none (hitems : ∀ v ∈ items, v.isJson)
    (hfree : ∃ v ∈ items, ¬ v.isListFree) (xs ys : List Value) :
    itemsHold? r (items ++ xs) (items.map freeze ++ ys) = none := by
  induction items with
  | nil =>
    obtain ⟨v, hv, -⟩ := hfree
    contradiction
  | cons v rest ih =>
    obtain ⟨hv, hrest⟩ := List.forall_mem_cons.mp hitems
    -- The comparison passes a list-free item and ends at any other.
    by_cases hvfree : v.isListFree
    · have hrestfree : ∃ w ∈ rest, ¬ w.isListFree := by
        obtain ⟨w, hw, hwfree⟩ := hfree
        rcases List.mem_cons.mp hw with rfl | hw
        · exact absurd hvfree hwfree
        · exact ⟨w, hw, hwfree⟩
      have hself : equal v v.freeze := equal_freeze_self hv hvfree
      rw [List.cons_append, List.map_cons, List.cons_append, itemsHold?, if_pos hself]
      exact ih hrest hrestfree
    · have hne : ¬ equal v v.freeze := fun h => hvfree (isListFree_of_equal_freeze hv h)
      rw [List.cons_append, List.map_cons, List.cons_append, itemsHold?, if_neg hne,
        holds?_freeze_eq_none hv hvfree]

/-! ### Items that nothing comes before -/

/-- Whether nothing comes before a value. -/
def IsLeast (y : Value) : Prop := ∀ x, holds? .less x y ≠ some true

theorem isLeast_object (form : Form) (members : Members) : IsLeast (.object form members) := by
  intro x
  simp [holds?_object]

theorem isLeast_nil (form : Form) : IsLeast (.list form []) := by
  intro x
  cases x with
  | list given items =>
    rw [holds?]
    split
    · cases items <;> simp [itemsHold?, Relation.accepts]
    · simp
  | _ => simp [holds?, place?]

/-- An object and an empty list are least, and so are their frozen copies. -/
theorem isLeast_and_freeze (hy : y.isObject ∨ y = .array []) : IsLeast y ∧ IsLeast y.freeze := by
  rcases hy with hobject | rfl
  · cases y with
    | object form members =>
      rw [freeze, withForm_object]
      exact ⟨isLeast_object form members, isLeast_object _ _⟩
    | _ => contradiction
  · exact ⟨isLeast_nil _, isLeast_nil _⟩

/-- Only the empty list comes before a list of one item that nothing comes before. -/
theorem less_singleton_iff (hy : IsLeast y) (xs : List Value) :
    itemsHold? .less xs [y] = some true ↔ xs = [] := by
  cases xs with
  | nil => simp [itemsHold?, Relation.accepts]
  | cons x xs =>
    rw [itemsHold?]
    split
    · cases xs <;> simp [itemsHold?, Relation.accepts]
    · simp [hy x]

/-- **A last item that nothing comes before may be replaced** by another, and those before it be
frozen: the same lists come before. -/
theorem less_freeze_append_iff (hpre : ∀ v ∈ pre, v.isListFree) (hy : IsLeast y)
    (hz : IsLeast z) (xs : List Value) :
    itemsHold? .less xs (pre.map freeze ++ [z]) = some true
      ↔ itemsHold? .less xs (pre ++ [y]) = some true := by
  induction pre generalizing xs with
  | nil => exact (less_singleton_iff hz xs).trans (less_singleton_iff hy xs).symm
  | cons v rest ih =>
    obtain ⟨hv, hrest⟩ := List.forall_mem_cons.mp hpre
    cases xs with
    | nil => exact Iff.rfl
    | cons x xs =>
      rw [List.map_cons, List.cons_append, List.cons_append, itemsHold?, itemsHold?, freeze,
        equal_withForm .frozen hv, holds?_withForm .frozen hv]
      split
      · exact ih hrest xs
      · exact Iff.rfl

end DocView.Value
