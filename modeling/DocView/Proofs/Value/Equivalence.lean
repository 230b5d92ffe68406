import DocView.Proofs.Value.Interchange

/-!
# Strict equality as an equivalence

Equality spans kinds: an integer is equal to a double, a plain object to a frozen one, and a truth
value to a number. Strict equality keeps truth values and numbers apart at the top and lets them
meet further inside. That is no obstacle to its laws, since of two values that are strictly equal
both are truth values or neither is.

What does stand in the way of a law is a NaN, which is equal to nothing and spoils every container
that it is in. A value is *definite* if no NaN occurs in it and every object in it has each name
once. On these values strict equality is an equivalence, and a value is equal to itself on no others.

## Main definitions

* `Value.IsNaNFree`
* `Value.IsDefinite`, `Value.Definite`

## Main results

* `Value.equal_self_iff` - what is equal to itself
* `Value.strictlyEqual_congr` - strict equality does not tell strictly equal values apart
* `Value.equivalence_strictlyEqual`
-/

namespace DocView.Value

/-- No NaN occurs in a value, at any depth. -/
inductive IsNaNFree : Value → Prop
  | list {form : Form} {items : List Value} (parts : ∀ v ∈ items, IsNaNFree v) :
    IsNaNFree (.list form items)
  | object {form : Form} {members : Members} (parts : ∀ entry ∈ members, IsNaNFree entry.2) :
    IsNaNFree (.object form members)
  | scalar {v : Value} (h : v.isContainer = false)
    (number : ∀ x, v = .float x → x.isNaN = false) : IsNaNFree v

/-- No NaN occurs in a value, and no object in it has a name twice. -/
structure IsDefinite (v : Value) : Prop where
  /-- Every object has each of its names once. -/
  tidy : v.IsTidy
  /-- Every double is a number or an infinity. -/
  nanFree : v.IsNaNFree

/-- The definite values. -/
abbrev Definite : Type := { v : Value // v.IsDefinite }

variable {a b c : Value} {items : List Value} {members : Members} {form : Form}

theorem isNaNFree_list_iff : (Value.list form items).IsNaNFree ↔ ∀ v ∈ items, v.IsNaNFree := by
  refine ⟨fun h => ?_, .list⟩
  cases h with
  | list parts => exact parts
  | scalar h => cases h

theorem isNaNFree_object_iff :
    (Value.object form members).IsNaNFree ↔ ∀ entry ∈ members, entry.2.IsNaNFree := by
  refine ⟨fun h => ?_, .object⟩
  cases h with
  | object parts => exact parts
  | scalar h => cases h

theorem isNaNFree_scalar_iff (ha : a.isContainer = false) :
    a.IsNaNFree ↔ ∀ x, a = .float x → x.isNaN = false := by
  refine ⟨fun h => ?_, .scalar ha⟩
  cases h with
  | list | object => cases ha
  | scalar _ number => exact number

/-! ### What is equal to itself -/

/-- **A value is equal to itself if and only if no NaN occurs in it.** -/
theorem equal_self_iff (ha : a.IsTidy) : equal a a ↔ a.IsNaNFree := by
  induction a using containerInduction with
  | list form items ih =>
    rw [equal_list_self_iff, isNaNFree_list_iff]
    exact forall₂_congr fun v hv => ih v hv (ha.of_mem v hv)
  | object form members ih =>
    obtain ⟨hnd, htidy⟩ := ha.of_mem_members
    rw [equal_object_self_iff hnd, isNaNFree_object_iff]
    exact forall₂_congr fun entry he => ih entry he (htidy entry he)
  | scalar a hscalar => rw [equal_scalar_self_iff hscalar, isNaNFree_scalar_iff hscalar]

/-- What is equal to anything at all has no NaN in it. -/
theorem isNaNFree_of_equal (ha : a.IsTidy) (hb : b.IsTidy) (h : equal a b) : a.IsNaNFree :=
  (equal_self_iff ha).mp (equal_trans ha hb h (equal_symm ha hb h))

/-! ### Strict equality -/

/-- **Strict equality does not tell strictly equal values apart**, on either side. -/
theorem strictlyEqual_congr (ha : a.IsTidy) (hb : b.IsTidy) (h : a.strictlyEqual b) (c : Value) :
    a.strictlyEqual c = b.strictlyEqual c ∧ c.strictlyEqual a = c.strictlyEqual b := by
  obtain ⟨hbool, hequal⟩ := strictlyEqual_iff.mp h
  have hsame := interchangeable_of_equal ha hb hequal
  simp only [strictlyEqual, hbool, hsame.left c, hsame.right c, and_self]

theorem strictlyEqual_refl (ha : a.IsDefinite) : a.strictlyEqual a :=
  strictlyEqual_iff.mpr ⟨rfl, (equal_self_iff ha.tidy).mpr ha.nanFree⟩

theorem strictlyEqual_symm (ha : a.IsTidy) (hb : b.IsTidy) (h : a.strictlyEqual b) :
    b.strictlyEqual a := by
  obtain ⟨hbool, hequal⟩ := strictlyEqual_iff.mp h
  exact strictlyEqual_iff.mpr ⟨hbool.symm, equal_symm ha hb hequal⟩

theorem strictlyEqual_trans (ha : a.IsTidy) (hb : b.IsTidy) (hab : a.strictlyEqual b)
    (hbc : b.strictlyEqual c) : a.strictlyEqual c :=
  (strictlyEqual_congr ha hb hab c).1 ▸ hbc

/-- **Strict equality is an equivalence** on the definite values. -/
theorem equivalence_strictlyEqual :
    Equivalence fun a b : Definite => a.val.strictlyEqual b.val = true where
  refl a := strictlyEqual_refl a.property
  symm {a b} h := strictlyEqual_symm a.property.tidy b.property.tidy h
  trans {a b _} hab hbc := strictlyEqual_trans a.property.tidy b.property.tidy hab hbc

/-- Null and unset are strictly equal to themselves only. -/
theorem isMissing_congr (ha : a.IsTidy) (hb : b.IsTidy) (h : a.strictlyEqual b) :
    a.isNull = b.isNull ∧ a.isUnset = b.isUnset := by
  have hnull : ∀ v : Value, v.isNull = equal v .null := by
    intro v
    cases v <;> simp [isNull, equal, samePlace, place?]
  have hunset : ∀ v : Value, v.isUnset = equal v .unset := by
    intro v
    cases v <;> simp [isUnset, equal, samePlace, place?]
  have hsame := interchangeable_of_equal ha hb (strictlyEqual_iff.mp h).2
  exact ⟨by rw [hnull, hnull, hsame.left], by rw [hunset, hunset, hsame.left]⟩

end DocView.Value
