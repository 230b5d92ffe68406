import DocView.Proofs.Coercion
import DocView.Proofs.Filter.Container
import DocView.Proofs.Filter.Number
import DocView.Proofs.Filter.Set

/-!
# Values that are prepared already

A condition keeps its value as it was given and prepares it anew for every document. The value may
well have been prepared before: a selector holds numbers where the rows of a query builder had
texts, and a program that makes conditions may convert what it puts into them. That has to make no
difference.

It makes none, because preparing ends in fixed points. What a value converts to is of the kind that
the type asks for, and such a value converts to itself (`IsConverted`). A value that is taken apart
becomes a plain list, and whatever a plain list of converted items is taken for, a list of items or
one value, it is left as it is. A value that is converted as a whole is not taken apart afterwards,
as it has become neither a text under the type of lists nor a list.

Preparing never makes a value blank, and leaves the ones that are blank alone. So a condition is
vacuous before if and only if it is afterwards.

## Main definitions

* `Filter.IsConverted`
* `Condition.prepared` - a condition that holds its value as it is compared

## Main results

* `Filter.isConverted_convert`
* `Filter.prepareFilterValue_prepareFilterValue` - preparing a filter value once is enough
* `Filter.isBlank_prepareFilterValue` - preparing a filter value neither fills nor empties it
* `Condition.accepts_prepared`, `FilterSet.apply_prepared`
* `Condition.preparation_settles`
-/

namespace DocView

namespace Filter

variable {type : FieldType} {op? : Option Operator} {v : Value} {items : List Value}

/-! ### Conversion -/

/-- A value that is of the kind that a type asks for, or does not convert to it. -/
def IsConverted (type : FieldType) (v : Value) : Prop := convert type v = v

theorem isConverted_of_isBlank (hv : v.isBlank) : IsConverted type v := if_pos hv

/-- Only three types convert anything. -/
theorem isConverted_of_type (hnumber : type ≠ .number) (hboolean : type ≠ .boolean)
    (hdate : type ≠ .date) (v : Value) : IsConverted type v := by
  unfold IsConverted convert
  cases type <;> first | contradiction | exact ite_self v

theorem convert_boolean (hv : v.isBlank = false) :
    convert .boolean v = ((coerceBoolean v).map Value.bool).getD v := by
  rw [convert, hv, if_neg Bool.false_ne_true]

theorem convert_date (hv : v.isBlank = false) :
    convert .date v = ((coerceDate v).map Value.moment).getD v := by
  rw [convert, hv, if_neg Bool.false_ne_true]

/-- **What a value converts to converts to itself.** -/
theorem isConverted_convert (type : FieldType) (v : Value) : IsConverted type (convert type v) := by
  unfold IsConverted
  cases hblank : v.isBlank with
  | true => rw [isConverted_of_isBlank hblank, isConverted_of_isBlank hblank]
  | false =>
    cases type with
    | number =>
      cases hn : coerceNumber v with
      | none => rw [convert_raw hn, convert_raw hn]
      | some n => rw [convert_number hn, convert_number (coerceNumber_toValue hn)]
    | boolean =>
      rw [convert_boolean hblank]
      cases hb : coerceBoolean v with
      | none =>
        rw [Option.map_none, Option.getD_none, convert_boolean hblank, hb]
        rfl
      | some b => rfl
    | date =>
      rw [convert_date hblank]
      cases hm : coerceDate v with
      | none =>
        rw [Option.map_none, Option.getD_none, convert_date hblank, hm]
        rfl
      | some m =>
        rw [Option.map_some, Option.getD_some, convert_date rfl, coerceDate_moment hm]
        rfl
    | _ => exact isConverted_of_type (by decide) (by decide) (by decide) _

theorem isBlank_convert (type : FieldType) (v : Value) : (convert type v).isBlank = v.isBlank := by
  unfold convert
  split
  · rfl
  · -- What a value converts to is never blank.
    split
    · cases coerceNumber v with
      | none => rfl
      | some n => simp_all [isBlank_toValue]
    · cases coerceBoolean v <;> simp_all [Value.isBlank]
    · cases coerceDate v <;> simp_all [Value.isBlank]
    · rfl

/-- No value converts to a list, unless it is one. -/
theorem isList_convert (type : FieldType) (v : Value) : (convert type v).isList = v.isList := by
  cases hv : v.isContainer with
  | true => rw [convert_container hv]
  | false =>
    have hlist : ∀ {u : Value}, u.isContainer = false → u.isList = false := by
      intro u hu
      cases u <;> first | rfl | cases hu
    rw [hlist hv, hlist ((isContainer_convert type v).trans hv)]

/-! ### Preparation -/

theorem prepareFilterValue_of_isBlank (hv : v.isBlank) : prepareFilterValue type op? v = v :=
  if_pos hv

/-- A plain list of converted items is left as it is, whether it is taken apart or not. -/
theorem prepareFilterValue_array (hitems : ∀ u ∈ items, IsConverted type u) :
    prepareFilterValue type op? (.array items) = .array items := by
  have hsame : items.map (convert type) = items :=
    (List.map_congr_left hitems).trans (List.map_id' items)
  cases hparts : isTakenApart type op? (.array items) with
  | true => rw [prepareFilterValue_apart rfl hparts, listItems, hsame]
  | false => rw [prepareFilterValue_whole hparts, convert_container rfl]

/-- A value that is converted as a whole is not taken apart afterwards. -/
theorem isTakenApart_convert (hv : isTakenApart type op? v = false) :
    isTakenApart type op? (convert type v) = false := by
  by_cases harray : type = .array
  · subst harray
    have hsame : convert .array v = v :=
      isConverted_of_type (by decide) (by decide) (by decide) v
    rwa [hsame]
  · have htype : (type == .array) = false := beq_eq_false_iff_ne.mpr harray
    rw [isTakenApart, htype, Bool.false_and] at hv ⊢
    rwa [isList_convert]

/-- **Preparing a filter value once is enough.** -/
theorem prepareFilterValue_prepareFilterValue (type : FieldType) (op? : Option Operator)
    (v : Value) : prepareFilterValue type op? (prepareFilterValue type op? v)
      = prepareFilterValue type op? v := by
  cases hblank : v.isBlank with
  | true => rw [prepareFilterValue_of_isBlank hblank, prepareFilterValue_of_isBlank hblank]
  | false =>
    cases hparts : isTakenApart type op? v with
    | true =>
      rw [prepareFilterValue_apart hblank hparts]
      exact prepareFilterValue_array (List.forall_mem_map.mpr fun u _ => isConverted_convert type u)
    | false =>
      rw [prepareFilterValue_whole hparts, prepareFilterValue_whole (isTakenApart_convert hparts)]
      exact isConverted_convert type v

/-- **Preparing a filter value neither fills nor empties it.** -/
theorem isBlank_prepareFilterValue (type : FieldType) (op? : Option Operator) (v : Value) :
    (prepareFilterValue type op? v).isBlank = v.isBlank := by
  cases hblank : v.isBlank with
  | true => rw [prepareFilterValue_of_isBlank hblank, hblank]
  | false =>
    cases hparts : isTakenApart type op? v with
    | true =>
      rw [prepareFilterValue_apart hblank hparts]
      rfl
    | false => rw [prepareFilterValue_whole hparts, isBlank_convert, hblank]

/-- Nor does it make a value that was never given, or give one. -/
theorem isUnset_prepareFilterValue (type : FieldType) (op? : Option Operator) (v : Value) :
    (prepareFilterValue type op? v).isUnset = v.isUnset := by
  have hunset : ∀ {u : Value}, u.isBlank = false → u.isUnset = false := by
    intro u hu
    cases u <;> first | rfl | cases hu
  cases hblank : v.isBlank with
  | true => rw [prepareFilterValue_of_isBlank hblank]
  | false =>
    rw [hunset hblank, hunset ((isBlank_prepareFilterValue type op? v).trans hblank)]

end Filter

/-! ### Conditions -/

namespace Condition

/-- A condition that holds its value in the form in which it is compared. -/
def prepared (c : Condition) : Condition :=
  { c with value := Filter.prepareFilterValue c.type c.operator? c.value }

theorem isVacuous_prepared (c : Condition) : c.prepared.isVacuous = c.isVacuous := by
  show (!c.field.truthy || (Filter.prepareFilterValue c.type c.operator? c.value).isUnset) = _
  rw [Filter.isUnset_prepareFilterValue, isVacuous]

/-- **A condition that holds its value prepared accepts what it accepted before**, and fails where
it failed. -/
theorem accepts_prepared (c : Condition) (document : Value) :
    c.prepared.accepts document = c.accepts document := by
  have hvalue : Filter.prepareFilterValue c.prepared.type c.prepared.operator? c.prepared.value
      = Filter.prepareFilterValue c.type c.operator? c.value :=
    Filter.prepareFilterValue_prepareFilterValue c.type c.operator? c.value
  rw [accepts, accepts, isVacuous_prepared, hvalue]
  rfl

end Condition

namespace FilterSet

theorem unknownOperators_prepared (conditions : List Condition) (logic : Logic) :
    unknownOperators ⟨conditions.map Condition.prepared, logic⟩
      = unknownOperators ⟨conditions, logic⟩ := by
  have hactive : ((fun c : Condition => !c.isVacuous && !c.isKnown) ∘ Condition.prepared)
      = fun c => !c.isVacuous && !c.isKnown := by
    funext c
    show (!c.prepared.isVacuous && !c.isKnown) = _
    rw [Condition.isVacuous_prepared]
  rw [unknownOperators, unknownOperators, List.filter_map, hactive, List.map_map]
  rfl

/-- **Conditions may hold their values prepared**: every collection gives the same documents, the
same warnings and the same failures. -/
theorem apply_prepared (conditions : List Condition) (logic : Logic) (documents : Value) :
    apply ⟨conditions.map Condition.prepared, logic⟩ documents
      = apply ⟨conditions, logic⟩ documents := by
  refine apply_congr_of_accepts ?_ (unknownOperators_prepared conditions logic) documents
  rw [List.forall₂_map_left_iff, List.forall₂_same]
  exact fun c _ => Condition.accepts_prepared c

end FilterSet

/-- **Preparing settles a value.** Whatever the value, the type and the operator, known or not: to
prepare it a second time changes nothing, and it is blank afterwards if and only if it was blank
before, in which case it has not been changed at all. The same holds of field values. So a condition
that holds its value prepared accepts the same documents as the condition that holds it as it was
given, and conditions that do select the same documents of every collection. -/
theorem Condition.preparation_settles (type : FieldType) (op? : Option Operator) (v : Value) :
    (Filter.prepareFilterValue type op? (Filter.prepareFilterValue type op? v)
        = Filter.prepareFilterValue type op? v ∧
      (Filter.prepareFilterValue type op? v).isBlank = v.isBlank ∧
      (v.isBlank → Filter.prepareFilterValue type op? v = v)) ∧
    (Filter.prepareFieldValue type (Filter.prepareFieldValue type v)
        = Filter.prepareFieldValue type v ∧
      (Filter.prepareFieldValue type v).isBlank = v.isBlank ∧
      (v.isBlank → Filter.prepareFieldValue type v = v)) ∧
    (∀ (c : Condition) document, c.prepared.accepts document = c.accepts document) ∧
    ∀ conditions logic documents,
      FilterSet.apply ⟨conditions.map Condition.prepared, logic⟩ documents
        = FilterSet.apply ⟨conditions, logic⟩ documents :=
  ⟨⟨Filter.prepareFilterValue_prepareFilterValue type op? v,
      Filter.isBlank_prepareFilterValue type op? v, Filter.prepareFilterValue_of_isBlank⟩,
    ⟨Filter.isConverted_convert type v, Filter.isBlank_convert type v,
      Filter.isConverted_of_isBlank⟩,
    Condition.accepts_prepared, FilterSet.apply_prepared⟩

/-- The bounds of a range as they were typed, of which one is open, are prepared once, and a range
that was never typed is left alone. -/
theorem Condition.preparation_settles_bounds :
    Filter.prepareFilterValue .number (some .inRange) (.array [.str " 3 ", .str ""])
        = .array [.int 3, .str ""] ∧
      Filter.prepareFilterValue .number (some .inRange) (.array [.int 3, .str ""])
        = .array [.int 3, .str ""] ∧
      Filter.prepareFilterValue .number (some .inRange) (.str "") = .str "" := by
  have hprepared : Filter.prepareFilterValue .number (some .inRange)
      (.array [.str " 3 ", .str ""]) = .array [.int 3, .str ""] := by with_unfolding_all rfl
  have htwice := (Condition.preparation_settles .number (some .inRange)
    (.array [.str " 3 ", .str ""])).1.1
  rw [hprepared] at htwice
  exact ⟨hprepared, htwice,
    (Condition.preparation_settles .number (some .inRange) (.str "")).1.2.2 rfl⟩

end DocView
