import DocView.Proofs.Binary64.Place
import DocView.Proofs.Filter.Preparation
import DocView.Proofs.Value.Equivalence

/-!
# Membership up to strict equality

A list operator goes through the items of its list and asks of each whether the field value is
strictly equal to it. Since strict equality is an equivalence, the answer depends on the classes of
the items and of the field value, and on nothing else: not on the order of the items, not on how
often one comes, and not on which of several strictly equal values stands for its class.

Conversion comes first. It does not separate what is strictly equal: numbers stay as they are or
become truth values by their place, moments keep their instant, and any other value is strictly
equal to itself only. So what holds of the values that are compared holds of a whole condition, with
the items as they were given and the field value as the document has it.

## Main definitions

* `Value.Alike` - the same, or strictly equal
* `Filter.IsCoveredBy`, `Filter.SameItems` - lists that have the same items up to likeness
* `Condition.ListsSame`

## Main results

* `Value.strictlyEqual_convert` - conversion does not separate what is strictly equal
* `Filter.evaluate_congr_mem` - order and repetition do not matter
* `Filter.evaluate_congr` - nor does the choice among strictly equal values
* `Condition.accepts_of_listsSame`
* `Filter.membership_by_class`
-/

namespace DocView

open Binary64 (Place)

variable {type : FieldType} {a b v : Value} {items items' : List Value}

/-- A number is true unless it is at the place of zero. -/
theorem coerceBoolean_of_place? {p : Place} (h : v.place? = some (some p)) :
    coerceBoolean v = some (p != .ofInt 0) := by
  have hofInt : ∀ n : Int, (Place.ofInt n != .ofInt 0) = (n != 0) := fun n =>
    Bool.eq_iff_iff.mpr (by simp [Place.ofInt_injective.eq_iff])
  cases v with
  | bool b =>
    obtain rfl := Option.some.inj (Option.some.inj h)
    rw [hofInt]
    cases b <;> rfl
  | int n =>
    obtain rfl := Option.some.inj (Option.some.inj h)
    rw [hofInt, coerceBoolean]
  | float x =>
    have hx : x.place? = some p := Option.some.inj h
    refine congrArg some (Bool.eq_iff_iff.mpr ?_)
    rw [Bool.not_eq_true', ← Bool.not_eq_true, Binary64.isZero_iff_place?, hx]
    simp
  | _ => cases h

/-! ### Conversion of strictly equal values -/

namespace Filter

/-- A number converts to a truth value, and to nothing else. -/
theorem convert_of_place? {p : Place} (h : v.place? = some (some p)) :
    convert type v = if type = .boolean then .bool (p != .ofInt 0) else v := by
  have hblank : v.isBlank = false := by
    cases v <;> first | rfl | cases h
  cases type with
  | boolean =>
    rw [convert_boolean hblank, coerceBoolean_of_place? h]
    rfl
  | number =>
    cases v with
    | bool b => rfl
    | int n => rfl
    | float x =>
      cases hn : coerceNumber (.float x) with
      | none => exact convert_raw hn
      | some n =>
        obtain ⟨rfl, -⟩ := Number.isFinite_of_ofFloat? hn
        exact convert_number hn
    | _ => cases h
  | date =>
    cases v with
    | bool | int | float => rfl
    | _ => cases h
  | _ => exact isConverted_of_type (by decide) (by decide) (by decide) v

theorem isNaNFree_convert (hv : v.IsNaNFree) : (convert type v).IsNaNFree := by
  cases hcontainer : v.isContainer with
  | true =>
    rw [convert_container hcontainer]
    exact hv
  | false =>
    have hnumber := (Value.isNaNFree_scalar_iff hcontainer).mp hv
    refine .scalar ((isContainer_convert type v).trans hcontainer) fun x hx => ?_
    unfold convert at hx
    split at hx
    · exact hnumber x hx
    · split at hx
      · cases hn : coerceNumber v with
        | none => exact hnumber x (by simpa [hn] using hx)
        | some n =>
          cases n with
          | int n => simp [hn, Number.toValue] at hx
          | float y =>
            obtain rfl : y = x := by simpa [hn, Number.toValue] using hx
            exact Binary64.isNaN_of_isFinite (isFinite_of_coerceNumber hn)
      · cases hb : coerceBoolean v with
        | none => exact hnumber x (by simpa [hb] using hx)
        | some b => simp [hb] at hx
      · cases hm : coerceDate v with
        | none => exact hnumber x (by simpa [hm] using hx)
        | some m => simp [hm] at hx
      · exact hnumber x hx

theorem isTidy_convert (hv : v.IsTidy) : (convert type v).IsTidy := by
  cases hcontainer : v.isContainer with
  | true =>
    rw [convert_container hcontainer]
    exact hv
  | false => exact .scalar ((isContainer_convert type v).trans hcontainer)

end Filter

namespace Value

/-- Two moments that are the same are still the same in universal time. -/
theorem Moment.same_inUniversalTime {m n : Moment} (h : m.same n) :
    m.inUniversalTime.same n.inUniversalTime := by
  have hsame : m.instant = n.instant := by
    unfold Moment.same Moment.keys? at h
    split at h
    next heq =>
      split at heq
      · obtain ⟨rfl, rfl⟩ := Prod.mk.inj (Option.some.inj heq)
        exact beq_iff_eq.mp h
      · cases heq
    next => cases h
  simp [Moment.same, Moment.keys?, Moment.isLocal_inUniversalTime, Moment.instant_inUniversalTime,
    hsame]

/-- **Conversion does not separate what is strictly equal.** -/
theorem strictlyEqual_convert (ha : a.IsTidy) (hb : b.IsTidy) (h : a.strictlyEqual b) :
    (Filter.convert type a).strictlyEqual (Filter.convert type b) := by
  obtain ⟨hbool, hequal⟩ := strictlyEqual_iff.mp h
  cases hcontainer : a.isContainer with
  | true =>
    have hcontainer' : b.isContainer := by
      cases a <;> cases b <;> simp_all [isContainer, equal, samePlace, place?]
    rwa [Filter.convert_container hcontainer, Filter.convert_container hcontainer']
  | false =>
    cases hplace : a.place? with
    | some place =>
      obtain ⟨p, hp, hp'⟩ := place?_of_equal hplace hequal
      rw [Filter.convert_of_place? hp, Filter.convert_of_place? hp']
      split
      · exact strictlyEqual_refl ⟨.scalar rfl, .scalar rfl fun x hx => by cases hx⟩
      · exact h
    | none =>
      by_cases hmoment : ∃ m, a = .moment m
      · obtain ⟨m, rfl⟩ := hmoment
        cases b with
        | moment n =>
          cases type with
          | date =>
            have hsame : m.inUniversalTime.same n.inUniversalTime :=
              Moment.same_inUniversalTime (by simpa [equal] using hequal)
            show (moment m.inUniversalTime).strictlyEqual (moment n.inUniversalTime)
            exact strictlyEqual_iff.mpr ⟨rfl, by simpa [equal] using hsame⟩
          | _ => exact h
        | _ => simp [equal, samePlace, place?] at hequal
      · obtain rfl := eq_of_equal hcontainer hplace (fun m hm => hmoment ⟨m, hm⟩) hequal
        -- What is equal to nothing but itself is free of NaN, and so is what it converts to.
        have hnan := isNaNFree_of_equal ha hb hequal
        exact strictlyEqual_refl ⟨Filter.isTidy_convert ha, Filter.isNaNFree_convert hnan⟩

/-! ### Values and lists that are alike -/

/-- The same, or strictly equal. -/
def Alike (a b : Value) : Prop := a = b ∨ a.strictlyEqual b

theorem Alike.strictlyEqual (ha : a.IsTidy) (hb : b.IsTidy) (h : Alike a b) (c : Value) :
    a.strictlyEqual c = b.strictlyEqual c ∧ c.strictlyEqual a = c.strictlyEqual b := by
  obtain rfl | h := h
  · exact ⟨rfl, rfl⟩
  · exact strictlyEqual_congr ha hb h c

theorem Alike.convert (ha : a.IsTidy) (hb : b.IsTidy) (h : Alike a b) :
    Alike (Filter.convert type a) (Filter.convert type b) :=
  h.imp (congrArg _) (strictlyEqual_convert ha hb)

theorem Alike.isMissing (ha : a.IsTidy) (hb : b.IsTidy) (h : Alike a b) :
    a.isNull = b.isNull ∧ a.isUnset = b.isUnset := by
  obtain rfl | h := h
  · exact ⟨rfl, rfl⟩
  · exact isMissing_congr ha hb h

end Value

namespace Filter

variable {op : Operator} {form form' : Form}

/-- Every item of the first list is like some item of the second. -/
def IsCoveredBy (items items' : List Value) : Prop := ∀ v ∈ items, ∃ w ∈ items', v.Alike w

/-- Two lists have the same items, up to likeness; how often and in which order they have them does
not count. -/
structure SameItems (items items' : List Value) : Prop where
  forth : IsCoveredBy items items'
  back : IsCoveredBy items' items

theorem IsCoveredBy.convert (hitems : ∀ v ∈ items, v.IsTidy) (hitems' : ∀ v ∈ items', v.IsTidy)
    (h : IsCoveredBy items items') :
    IsCoveredBy (items.map (Filter.convert type)) (items'.map (Filter.convert type)) := by
  refine List.forall_mem_map.mpr fun v hv => ?_
  obtain ⟨w, hw, hvw⟩ := h v hv
  exact ⟨Filter.convert type w, List.mem_map_of_mem hw, hvw.convert (hitems v hv) (hitems' w hw)⟩

theorem SameItems.convert (hitems : ∀ v ∈ items, v.IsTidy) (hitems' : ∀ v ∈ items', v.IsTidy)
    (h : SameItems items items') :
    SameItems (items.map (Filter.convert type)) (items'.map (Filter.convert type)) :=
  ⟨h.forth.convert hitems hitems', h.back.convert hitems' hitems⟩

/-! ### Membership -/

/-- Membership depends on what is in a list, not on the order or on repetitions. -/
theorem isAmong_congr_mem (h : ∀ w, w ∈ items ↔ w ∈ items') (v : Value) :
    isAmong v items = isAmong v items' :=
  Bool.eq_iff_iff.mpr (by simp only [isAmong, List.any_eq_true, h])

theorem IsCoveredBy.isAmong (hitems : ∀ v ∈ items, v.IsTidy) (hitems' : ∀ v ∈ items', v.IsTidy)
    (h : IsCoveredBy items items') (hv : isAmong v items) : isAmong v items' := by
  obtain ⟨w, hw, heq⟩ := List.any_eq_true.mp hv
  obtain ⟨u, hu, hwu⟩ := h w hw
  exact List.any_eq_true.mpr ⟨u, hu, (hwu.strictlyEqual (hitems w hw) (hitems' u hu) v).2 ▸ heq⟩

/-- **Membership does not tell like values apart**, nor lists that have the same items. -/
theorem isAmong_congr (ha : a.IsTidy) (hb : b.IsTidy) (hab : a.Alike b)
    (hitems : ∀ v ∈ items, v.IsTidy) (hitems' : ∀ v ∈ items', v.IsTidy)
    (h : SameItems items items') : isAmong a items = isAmong b items' := by
  have hvalue : isAmong a items = isAmong b items := by
    simp only [isAmong, (hab.strictlyEqual ha hb _).1]
  rw [hvalue]
  exact Bool.eq_iff_iff.mpr ⟨h.forth.isAmong hitems hitems', h.back.isAmong hitems' hitems⟩

/-- **What a list operator answers**: whether the field value is among the items, or whether it is
not, and no for a field value that is missing. -/
theorem evaluate_takesList (hop : op.takesList) (v : Value) (form : Form) (items : List Value) :
    evaluate v (some op) (.list form items)
      = whenPresent v (.ok (isAmong v items == (op == .isIn))) := by
  cases op with
  | isIn =>
    rw [evaluate_container rfl rfl, compare]
    cases isAmong v items <;> rfl
  | notIn =>
    rw [evaluate_container rfl rfl, compare]
    cases isAmong v items <;> rfl
  | _ => cases hop

/-- **The order of the items does not matter, and neither do repetitions.** -/
theorem evaluate_congr_mem (hop : op.takesList) (h : ∀ w, w ∈ items ↔ w ∈ items') (v : Value) :
    evaluate v (some op) (.list form items) = evaluate v (some op) (.list form' items') := by
  rw [evaluate_takesList hop, evaluate_takesList hop, isAmong_congr_mem h]

/-- **Nor does the choice among strictly equal values**, as field values and as items. -/
theorem evaluate_congr (hop : op.takesList) (ha : a.IsTidy) (hb : b.IsTidy) (hab : a.Alike b)
    (hitems : ∀ v ∈ items, v.IsTidy) (hitems' : ∀ v ∈ items', v.IsTidy)
    (h : SameItems items items') :
    evaluate a (some op) (.list form items) = evaluate b (some op) (.list form' items') := by
  obtain ⟨hnull, hunset⟩ := hab.isMissing ha hb
  rw [evaluate_takesList hop, evaluate_takesList hop, whenPresent, whenPresent, hnull, hunset,
    isAmong_congr ha hb hab hitems hitems' h]

end Filter

namespace Condition

/-- Conditions that ask whether a field value is among the same items, up to likeness. The items
may be given as a list of any form or as text. -/
structure ListsSame (c c' : Condition) : Prop where
  takesList : ∃ op, c.operator? = some op ∧ op.takesList
  operator : c.operator? = c'.operator?
  type : c.type = c'.type
  isVacuous : c.isVacuous = c'.isVacuous
  /-- Each has items, or a text that may list some. -/
  filled : c.value.isBlank = false ∧ c'.value.isBlank = false
  /-- The objects among the items have each name once. -/
  tidy : (∀ v ∈ Filter.listItems c.value, v.IsTidy) ∧ ∀ v ∈ Filter.listItems c'.value, v.IsTidy
  items : Filter.SameItems (Filter.listItems c.value) (Filter.listItems c'.value)

/-- **A condition with a list operator sees its items and the field value up to likeness.** -/
theorem accepts_of_listsSame {c c' : Condition} (h : ListsSame c c') {document document' : Value}
    (ha : a.IsTidy) (hb : b.IsTidy) (hab : a.Alike b)
    (hfield : Document.field document c.field = .ok a)
    (hfield' : Document.field document' c'.field = .ok b) :
    c.accepts document = c'.accepts document' := by
  obtain ⟨op, hc, hop⟩ := h.takesList
  have hconverted : ∀ {items : List Value}, (∀ v ∈ items, v.IsTidy) →
      ∀ v ∈ items.map (Filter.convert c'.type), v.IsTidy := fun hitems =>
    List.forall_mem_map.mpr fun v hv => Filter.isTidy_convert (hitems v hv)
  rw [accepts, accepts, h.isVacuous, hfield, hfield', ← h.operator, hc, h.type,
    Filter.prepareFilterValue_takesList h.filled.1 hop,
    Filter.prepareFilterValue_takesList h.filled.2 hop]
  split
  · rfl
  · exact Filter.evaluate_congr hop (Filter.isTidy_convert ha) (Filter.isTidy_convert hb)
      (hab.convert ha hb) (hconverted h.tidy.1) (hconverted h.tidy.2)
      (h.items.convert h.tidy.1 h.tidy.2)

end Condition

/-- **Membership is by classes.** Strict equality is an equivalence on all values in which there is
no NaN and every object has each name once. So a list operator answers the same whatever the order
and the repetitions among its items, and the same for field values that are strictly equal, with
items that may themselves be replaced by strictly equal ones. Of a whole condition this holds before
the items and the field value have been converted. -/
theorem Filter.membership_by_class :
    (Equivalence fun a b : Value.Definite => a.val.strictlyEqual b.val = true) ∧
    (∀ op : Operator, op.takesList → ∀ v form form' items items', (∀ w, w ∈ items ↔ w ∈ items') →
      evaluate v (some op) (.list form items) = evaluate v (some op) (.list form' items')) ∧
    (∀ op : Operator, op.takesList → ∀ a b : Value, a.IsTidy → b.IsTidy → a.strictlyEqual b →
      ∀ form form' items items', (∀ v ∈ items, v.IsTidy) → (∀ v ∈ items', v.IsTidy) →
        SameItems items items' →
        evaluate a (some op) (.list form items) = evaluate b (some op) (.list form' items')) ∧
    ∀ c c' : Condition, c.ListsSame c' → ∀ a b : Value, a.IsTidy → b.IsTidy → a.strictlyEqual b →
      ∀ document document', Document.field document c.field = .ok a →
        Document.field document' c'.field = .ok b → c.accepts document = c'.accepts document' :=
  ⟨Value.equivalence_strictlyEqual,
    fun _ hop v _ _ _ _ h => evaluate_congr_mem hop h v,
    fun _ hop _ _ ha hb hab _ _ _ _ hitems hitems' h =>
      evaluate_congr hop ha hb (.inr hab) hitems hitems' h,
    fun _ _ h _ _ ha hb hab _ _ hfield hfield' =>
      Condition.accepts_of_listsSame h ha hb (.inr hab) hfield hfield'⟩

/-- The integer one is in whatever list the double one is in, with what else the list has. -/
theorem Filter.membership_by_class_one :
    evaluate (.int 1) (some .isIn) (.array [.str "a", .int 1])
      = evaluate (.float (.ofInt 1)) (some .isIn)
        (.list .frozen [.float (.ofInt 1), .str "a", .float (.ofInt 1)]) := by
  have hone : (Value.int 1).strictlyEqual (.float (.ofInt 1)) := by decide +kernel
  have hback : (Value.float (.ofInt 1)).strictlyEqual (.int 1) := by decide +kernel
  have htext : (Value.str "a").IsTidy := .scalar rfl
  have hinteger : (Value.int 1).IsTidy := .scalar rfl
  have hdouble : (Value.float (.ofInt 1)).IsTidy := .scalar rfl
  refine membership_by_class.2.2.1 .isIn rfl _ _ hinteger hdouble hone _ _ _ _ ?_ ?_ ⟨?_, ?_⟩
  · simp [htext, hinteger]
  · simp [htext, hdouble]
  · simp [IsCoveredBy, Value.Alike, hone]
  · simp [IsCoveredBy, Value.Alike, hback]

end DocView
