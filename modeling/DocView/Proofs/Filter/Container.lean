import DocView.Filter.Evaluation
import DocView.Filter.Preparation
import DocView.Proofs.Value.Order

/-!
# Filtering by lists and objects

Lists and objects convert to no type and are never blank, so they reach a comparison as they came,
on either side: as the filter value, except under a list operator, which takes the items of a list
and the text of an object; and as the field value.

A comparison with a frozen copy is one with the original where the forms are not seen.

## Main definitions

* `Filter.isTakenApart` - filter values that are converted in parts

## Main results

* `Filter.prepareFilterValue_apart`, `Filter.prepareFilterValue_whole` - the two ways to prepare
* `Filter.prepareFilterValue_container`, `Filter.prepareFilterValue_takesList`
* `Filter.evaluate_container`
* `Filter.exists_evaluate` - no operator but the pattern fails
* `Filter.convert_withForm`, `Filter.isAmong_map_freeze`
-/

namespace DocView.Filter

variable {type : FieldType} {op : Operator} {op? : Option Operator} {v filter : Value}
  {items : List Value}

/-! ### Conversion -/

theorem convert_container (hv : v.isContainer) : convert type v = v := by
  cases v with
  | list => cases type <;> rfl
  | object => cases type <;> rfl
  | _ => contradiction

/-- Everything is text already. -/
theorem convert_string (v : Value) : convert .string v = v := by
  unfold convert
  split <;> rfl

/-- What is no container is converted to what is none. -/
theorem isContainer_convert (type : FieldType) (v : Value) :
    (convert type v).isContainer = v.isContainer := by
  cases hv : v.isContainer with
  | true => rw [convert_container hv, hv]
  | false =>
    unfold convert
    split
    · exact hv
    · split
      · cases coerceNumber v with
        | none => exact hv
        | some n => cases n <;> rfl
      · cases coerceBoolean v <;> first | rfl | exact hv
      · cases coerceDate v <;> first | rfl | exact hv
      · exact hv

/-- Conversion and change of form do not meet. -/
theorem convert_withForm (form : Form) (v : Value) :
    convert type (v.withForm form) = (convert type v).withForm form := by
  cases hv : v.isContainer with
  | true =>
    rw [convert_container hv, convert_container ((Value.isContainer_withForm form v).trans hv)]
  | false =>
    have hconverted : (convert type v).isContainer = false := (isContainer_convert type v).trans hv
    rw [Value.withForm_of_scalar hv, Value.withForm_of_scalar hconverted]

theorem isListFree_convert (hv : v.isListFree) : (convert type v).isListFree := by
  cases hcontainer : v.isContainer with
  | true =>
    rw [convert_container hcontainer]
    exact hv
  | false => exact Value.isListFree_of_scalar ((isContainer_convert type v).trans hcontainer)

/-! ### Preparation -/

/-- Whether a filter value is taken apart, and its parts are converted one by one. -/
def isTakenApart (type : FieldType) (op? : Option Operator) (v : Value) : Bool :=
  op?.any Operator.takesList || (type == .array && v.isText)
    || (decide (op? = some .inRange) && v.isList)

/-- **A filter value that is taken apart** becomes a plain list of converted items. -/
theorem prepareFilterValue_apart (hblank : v.isBlank = false)
    (hv : isTakenApart type op? v = true) :
    prepareFilterValue type op? v = .array ((listItems v).map (convert type)) := by
  unfold isTakenApart at hv
  unfold prepareFilterValue
  rw [hblank, if_neg Bool.false_ne_true]
  cases hparts : op?.any Operator.takesList || (type == .array && v.isText) with
  | true => rfl
  | false =>
    rw [hparts, Bool.false_or, Bool.and_eq_true, decide_eq_true_iff] at hv
    rw [if_neg Bool.false_ne_true]
    cases v with
    | list form items => exact if_pos hv.1
    | _ => cases hv.2

/-- **Any other filter value** is converted as a whole. -/
theorem prepareFilterValue_whole (hv : isTakenApart type op? v = false) :
    prepareFilterValue type op? v = convert type v := by
  unfold isTakenApart at hv
  obtain ⟨hparts, hrange⟩ := Bool.or_eq_false_iff.mp hv
  unfold prepareFilterValue
  split
  next hblank => exact (if_pos hblank).symm
  next =>
    rw [hparts, if_neg Bool.false_ne_true]
    cases v with
    | list form items =>
      have hop : op? ≠ some .inRange := by simpa [Value.isList] using hrange
      exact if_neg hop
    | _ => rfl

theorem isBlank_of_isContainer (hv : v.isContainer) : v.isBlank = false := by
  cases v <;> first | rfl | contradiction

/-- A container is compared as it came, except by an operator that reads it in parts. -/
theorem prepareFilterValue_container (hv : v.isContainer) (hop : op.takesList = false)
    (hrange : op ≠ .inRange) : prepareFilterValue type (some op) v = v := by
  have htext : v.isText = false := by
    cases v <;> first | rfl | contradiction
  rw [prepareFilterValue_whole (by simp [isTakenApart, hop, htext, hrange]), convert_container hv]

/-- A list operator takes the items that a value lists, each converted. -/
theorem prepareFilterValue_takesList (hv : v.isBlank = false) (hop : op.takesList) :
    prepareFilterValue type (some op) v = .array ((listItems v).map (convert type)) :=
  prepareFilterValue_apart hv (by simp [isTakenApart, hop])

theorem prepareFilterValue_string (hop : op.takesList = false) (s : String) :
    prepareFilterValue .string (some op) (.str s) = .str s := by
  rw [prepareFilterValue_whole (by simp [isTakenApart, hop, Value.isList]), convert_string]

/-! ### Evaluation -/

/-- The result for a field value that is there; one that is missing satisfies no comparison. -/
def whenPresent (v : Value) (result : Result Bool) : Result Bool :=
  if v.isNull || v.isUnset then .ok false else result

theorem whenPresent_container (hv : v.isContainer) (result : Result Bool) :
    whenPresent v result = result := by
  cases v <;> first | rfl | contradiction

/-- A container is compared with every field value that is there. -/
theorem evaluate_container (hfilter : filter.isContainer) (hop : op.isNullCheck = false) :
    evaluate v (some op) filter = whenPresent v (compare v op filter) := by
  have hblank := isBlank_of_isContainer hfilter
  have habsent : op.holdsOfNull = false := by
    cases op <;> first | rfl | contradiction
  simp [evaluate, whenPresent, hblank, hop, habsent]

/-! ### Failures -/

theorem exists_compare (hop : op ≠ .regex) (v filter : Value) :
    ∃ kept, compare v op filter = .ok kept := by
  cases op with
  | regex => exact absurd rfl hop
  | inRange | isIn | notIn =>
    unfold compare
    dsimp only
    split <;> exact ⟨_, rfl⟩
  | _ => exact ⟨_, rfl⟩

/-- Only a pattern can fail. -/
theorem exists_evaluate (hop : op ≠ .regex) (v filter : Value) :
    ∃ kept, evaluate v (some op) filter = .ok kept := by
  unfold evaluate
  dsimp only
  split
  · exact ⟨_, rfl⟩
  · split
    · exact ⟨_, rfl⟩
    · exact exists_compare hop v filter

/-! ### Membership -/

theorem strictlyEqual_withForm (form : Form) {w : Value} (hw : w.isListFree) (v : Value) :
    v.strictlyEqual (w.withForm form) = v.strictlyEqual w := by
  have hbool : (w.withForm form).isBool = w.isBool := by cases w <;> rfl
  rw [Value.strictlyEqual, Value.strictlyEqual, hbool, Value.equal_withForm form hw]

/-- List-free items may be frozen. -/
theorem isAmong_map_freeze (hitems : ∀ w ∈ items, w.isListFree) (v : Value) :
    isAmong v (items.map Value.freeze) = isAmong v items := by
  induction items with
  | nil => rfl
  | cons w rest ih =>
    obtain ⟨hw, hrest⟩ := List.forall_mem_cons.mp hitems
    rw [isAmong, List.map_cons, List.any_cons, Value.freeze, strictlyEqual_withForm .frozen hw]
    exact congrArg (v.strictlyEqual w || ·) (ih hrest)

end DocView.Filter
