import DocView.Proofs.Filter.Number
import DocView.Proofs.Query.Nulling

/-!
# Field values that tell a returned argument apart

Where an operator reads its argument differently frozen and as it comes back, with null for numbers
that JSON does not have, some field value of JSON gets two answers:

* for a double by itself it is the double, zero or a truth value, as a comparison with null is not
  satisfied;
* for equality and the orders it is made of the list that comes back, which no item that is a list
  or has been replaced is equal to, and with which it has no order;
* for membership it is a list as it comes back, or an infinity.

Being frozen and being replaced do not make up for each other. Arguments that are not sent, with
objects in them, are left out.

## Main results

* `Query.exists_answer_freeze_ne_answerNulled`
-/

namespace DocView

namespace Value

variable {v : Value} {items : List Value} {x : Binary64}

/-! ### What comes back against what is frozen -/

/-- What comes back is equal to a frozen value only if that is finite and no list. -/
theorem equal_nulled_freeze_iff (hv : v.IsAnyData) (hobject : v.hasObject = false) :
    equal v.nulled v.freeze ↔ v.isListFree ∧ v.IsFinite := by
  constructor
  · intro h
    cases hv with
    | null | bool | int | str => exact ⟨rfl, rfl⟩
    | @float x _ =>
      refine ⟨rfl, ?_⟩
      by_contra hx
      rw [nulled_float_of_not_isFinite hx] at h
      contradiction
    | list =>
      rw [nulled_list, freeze, withForm_list] at h
      contradiction
    | object => contradiction
  · rintro ⟨hfree, hfinite⟩
    rw [nulled_eq_self hfinite]
    exact equal_freeze_self (hv.isJson hfinite) hfree

/-- If it is not equal, it has no order with it either. -/
theorem holds?_nulled_freeze (hv : v.IsAnyData) (hobject : v.hasObject = false)
    (hnot : ¬ (v.isListFree ∧ v.IsFinite)) (r : Relation) :
    holds? r v.nulled v.freeze = none := by
  cases hv with
  | null | bool | int | str => exact absurd ⟨rfl, rfl⟩ hnot
  | @float x _ =>
    have hx : ¬ (Value.float x).IsFinite := fun hfinite => hnot ⟨rfl, hfinite⟩
    rw [nulled_float_of_not_isFinite hx]
    rfl
  | list => simp [freeze, withForm, holds?]
  | object => contradiction

section

variable (hitems : ∀ v ∈ items, v.IsAnyData) (hobjects : ∀ v ∈ items, v.hasObject = false)
include hitems hobjects

/-- **The first item that is a list or not finite stops the comparison** of what comes back with the
frozen items, whatever follows it on either side. -/
theorem itemsHold?_nulled_freeze (hnot : ¬ ∀ v ∈ items, v.isListFree ∧ v.IsFinite) (r : Relation)
    (xs ys : List Value) :
    itemsHold? r (items.map nulled ++ xs) (items.map freeze ++ ys) = none := by
  induction items with
  | nil => exact absurd (List.forall_mem_nil _) hnot
  | cons v rest ih =>
    obtain ⟨hv, hrest⟩ := List.forall_mem_cons.mp hitems
    obtain ⟨hvobject, hrestobjects⟩ := List.forall_mem_cons.mp hobjects
    rw [List.map_cons, List.map_cons, List.cons_append, List.cons_append, itemsHold?]
    by_cases hgood : v.isListFree ∧ v.IsFinite
    · rw [if_pos ((equal_nulled_freeze_iff hv hvobject).mpr hgood)]
      exact ih hrest hrestobjects fun hall => hnot (List.forall_mem_cons.mpr ⟨hgood, hall⟩)
    · rw [if_neg fun h => hgood ((equal_nulled_freeze_iff hv hvobject).mp h)]
      exact holds?_nulled_freeze hv hvobject hgood r

/-- What comes back is equal to the frozen items only if all of them are finite and no lists. -/
theorem forall_of_equalItems_nulled (h : equalItems (items.map nulled) (items.map freeze)) :
    ∀ v ∈ items, v.isListFree ∧ v.IsFinite := by
  induction items with
  | nil => exact List.forall_mem_nil _
  | cons v rest ih =>
    obtain ⟨hv, hrest⟩ := List.forall_mem_cons.mp hitems
    obtain ⟨hvobject, hrestobjects⟩ := List.forall_mem_cons.mp hobjects
    rw [List.map_cons, List.map_cons, equalItems, Bool.and_eq_true] at h
    exact List.forall_mem_cons.mpr ⟨(equal_nulled_freeze_iff hv hvobject).mp h.1,
      ih hrest hrestobjects h.2⟩

end

/-- A double that is equal to something finite is finite. -/
theorem isFinite_of_equal {w : Value} (h : equal (.float x) w) (hw : w.IsFinite) :
    (Value.float x).IsFinite := by
  have hsame : samePlace (.float x) w := by cases w <;> exact h
  have hplace : ∀ n, w.place? = some (some (.at n)) → (Value.float x).IsFinite := by
    intro n hn
    refine isFinite_float_iff_place?.mpr ⟨n, ?_⟩
    have hown : (Value.float x).place? = some x.place? := rfl
    rw [samePlace, hn, hown] at hsame
    cases hx : x.place? with
    | none => simp [hx] at hsame
    | some p => simpa [hx] using hsame
  cases w with
  | bool b => exact hplace _ rfl
  | int n => exact hplace _ rfl
  | float y =>
    obtain ⟨n, hn⟩ := isFinite_float_iff_place?.mp hw
    exact hplace n (congrArg some hn)
  | _ => simp [samePlace, place?] at hsame

end Value

namespace Filter

/-- Conversion makes no number that JSON does not have. -/
theorem isFinite_convert (type : FieldType) {v : Value} (hv : v.IsFinite) :
    (convert type v).IsFinite := by
  unfold convert
  split
  · exact hv
  · split
    · cases hn : coerceNumber v with
      | none => exact hv
      | some n =>
        cases n with
        | int n => rfl
        | float x => exact Value.isFinite_float_iff.mpr (isFinite_of_coerceNumber hn)
    · cases coerceBoolean v <;> first | rfl | exact hv
    · cases coerceDate v <;> first | rfl | exact hv
    · exact hv

end Filter

namespace Query

variable {op : Operator} {argument v w : Value} {items : List Value} {x : Binary64}

/-! ### Doubles -/

/-- With any other double, some value satisfies the operator. -/
theorem exists_answer_float (hop : op.comparesWhole) (hx : ¬ (Value.float x).IsFinite)
    (hbarred : ¬ op.isBarredBy x) : ∃ v : Value, v.isJson ∧ answer op (.float x) v = .ok true := by
  have hself : Filter.convert .number (.float x) = .float x :=
    Filter.convert_float hx .number (by decide)
  unfold Operator.isBarredBy at hbarred
  cases hplace : x.place? with
  | none =>
    rw [hplace] at hbarred
    cases op with
    | notEquals => exact ⟨.bool true, rfl, by rw [answer_float rfl hx]; rfl⟩
    | _ => contradiction
  | some q =>
    have hjson : (Value.float x).isJson := Value.isJson_float_iff.mpr (by simp [hplace])
    have hown : (Value.float x).place? = some (some q) := congrArg some hplace
    have hnot : ∀ n, q ≠ .at n := by
      rintro n rfl
      exact hx (Value.isFinite_float_iff_place?.mpr ⟨n, hplace⟩)
    rw [hplace] at hbarred
    cases op with
    | equals =>
      refine ⟨.float x, hjson, ?_⟩
      rw [answer_float rfl hx, hself]
      exact congrArg Except.ok (strictlyEqual_self hjson)
    | notEquals => exact ⟨.bool true, rfl, by rw [answer_float rfl hx]; rfl⟩
    -- Zero is on the other side of an infinity that does not bar a strict order.
    | greaterThan | lessThan =>
      refine ⟨.int 0, rfl, answer_float_of_holds rfl hx ?_⟩
      show (Value.int 0).holds? _ _ = _
      rw [Value.holds?_float, hown]
      cases q with
      | below | above => first | rfl | contradiction
      | «at» n => exact absurd rfl (hnot n)
    | greaterThanOrEqual | lessThanOrEqual =>
      refine ⟨.float x, hjson, answer_float_of_holds rfl hx ?_⟩
      rw [hself, Value.holds?_float, hown]
      cases q with
      | below | above => rfl
      | «at» n => exact absurd rfl (hnot n)
    | _ => contradiction

theorem text_float (hx : ¬ (Value.float x).IsFinite) :
    (Value.float x).text = "nan" ∨ (Value.float x).text = "inf" ∨
      (Value.float x).text = "-inf" := by
  have hnot : x.isFinite = false := Value.isFinite_eq_false_of_not hx
  have hintegral : x.isIntegral = false := by rw [Binary64.isIntegral, hnot, Bool.false_and]
  rw [Value.text, hintegral, if_neg Bool.false_ne_true, Binary64.text]
  cases hnan : x.isNaN with
  | true => exact .inl rfl
  | false =>
    rw [Binary64.isInfinite_of_not_finite hnot hnan]
    cases x.negative
    · exact .inr (.inl rfl)
    · exact .inr (.inr rfl)

/-- A list operator takes a double to list the text that displays it. -/
theorem exists_answer_float_list (hop : op.takesList) (hx : ¬ (Value.float x).IsFinite) :
    ∃ v : Value, v.isJson ∧ answer op (.float x) v = .ok true := by
  have hregex : op ≠ .regex := by rintro rfl; contradiction
  have hanswer : ∀ v, answer op (.float x) v
      = Filter.evaluate (Filter.convert .number v) (some op) (.array
        (((Text.commaItems (Value.float x).text).map .str).map (Filter.convert .number))) := by
    intro v
    have hprepared : Filter.prepareFilterValue .number (some op) (.float x) = .array
        (((Text.commaItems (Value.float x).text).map .str).map (Filter.convert .number)) :=
      Filter.prepareFilterValue_takesList rfl hop
    rw [answer, operatorCondition, if_neg hregex, ← hprepared]
    rfl
  cases op with
  | isIn =>
    refine ⟨.str (Value.float x).text, rfl, ?_⟩
    rw [hanswer]
    rcases text_float hx with htext | htext | htext <;> rw [htext] <;> with_unfolding_all rfl
  | notIn =>
    refine ⟨.bool true, rfl, ?_⟩
    rw [hanswer]
    rcases text_float hx with htext | htext | htext <;> rw [htext] <;> with_unfolding_all rfl
  | _ => contradiction

/-! ### Where some field value is told apart -/

section

variable (hitems : ∀ v ∈ items, v.IsAnyData) (hobjects : ∀ v ∈ items, v.hasObject = false)

/-- Comparisons agree on field values that are lists if the answers do. -/
theorem compare_eq_of_answerNulled (hop : op.comparesWhole)
    (h : ∀ v : Value, v.isJson →
      answer op (Value.array items).freeze v = answerNulled op (.array items) v)
    (hw : w.isJson) (hcontainer : w.isContainer) :
    Filter.compare w op (.array (items.map Value.freeze))
      = Filter.compare w op (.array (items.map Value.nulled)) := by
  have hsame := h w hw
  rwa [answer_freeze_list hop, answerNulled_list hop, Filter.convert_container hcontainer,
    Filter.whenPresent_container hcontainer, Filter.whenPresent_container hcontainer] at hsame

include hitems

theorem isJson_map_nulled : ∀ v ∈ items.map Value.nulled, v.isJson :=
  List.forall_mem_map.mpr fun v hv => Value.isJson_nulled (hitems v hv)

include hobjects

/-- An order that is decided after all items is asked about what comes back, with more items. -/
theorem forall_of_related {r : Relation} (tail : List Value)
    (htail : Value.itemsHold? r tail [] = some true)
    (h : Filter.related r (.array (items.map Value.nulled ++ tail))
        (.array (items.map Value.freeze))
      = Filter.related r (.array (items.map Value.nulled ++ tail))
        (.array (items.map Value.nulled))) :
    ∀ v ∈ items, v.isListFree ∧ v.IsFinite := by
  by_contra hnot
  have hback : Value.itemsHold? r (items.map Value.nulled ++ tail) (items.map Value.nulled ++ [])
      = some true := by
    rw [Value.itemsHold?_append (isJson_map_nulled hitems), htail]
  have hfrozen := Value.itemsHold?_nulled_freeze hitems hobjects hnot r tail []
  rw [List.append_nil] at hback hfrozen
  have hback' : Filter.related r (.array (items.map Value.nulled ++ tail))
      (.array (items.map Value.nulled)) = true := Filter.related_iff.mpr hback
  rw [hback', Filter.related_iff] at h
  exact absurd (hfrozen.symm.trans h) (by simp)

/-- Equality is asked about what comes back. -/
theorem forall_of_strictlyEqual
    (h : (Value.array (items.map Value.nulled)).strictlyEqual (.array (items.map Value.freeze))
      = (Value.array (items.map Value.nulled)).strictlyEqual (.array (items.map Value.nulled))) :
    ∀ v ∈ items, v.isListFree ∧ v.IsFinite := by
  have hback : (Value.array (items.map Value.nulled)).isJson :=
    Value.isJson_array (isJson_map_nulled hitems)
  rw [strictlyEqual_self hback] at h
  have hequal := equal_of_strictlyEqual h
  rw [Value.equal, Bool.and_eq_true] at hequal
  exact Value.forall_of_equalItems_nulled hitems hobjects hequal.2

/-- *Less than* is asked about what comes back of the items before the last, alone. -/
theorem forall_of_less {pre : List Value} {last : Value} (hsplit : items = pre ++ [last])
    (h : Filter.related .less (.array (pre.map Value.nulled)) (.array (items.map Value.freeze))
      = Filter.related .less (.array (pre.map Value.nulled)) (.array (items.map Value.nulled))) :
    ∀ v ∈ pre, v.isListFree ∧ v.IsFinite := by
  subst hsplit
  obtain ⟨hpre, -⟩ := List.forall_mem_append.mp hitems
  obtain ⟨hpreobjects, -⟩ := List.forall_mem_append.mp hobjects
  by_contra hnot
  have hback : Value.itemsHold? .less (pre.map Value.nulled ++ [])
      (pre.map Value.nulled ++ [last.nulled]) = some true := by
    rw [Value.itemsHold?_append (isJson_map_nulled hpre)]
    rfl
  have hfrozen := Value.itemsHold?_nulled_freeze hpre hpreobjects hnot .less [] [last.freeze]
  rw [List.append_nil] at hback hfrozen
  rw [List.map_append, List.map_append, List.map_singleton, List.map_singleton, Filter.related,
    Filter.related, Value.holds?, Value.holds?, if_pos rfl, if_pos rfl, hback, hfrozen] at h
  contradiction

end

/-- If items before the last are alike, then an item in the place of the last decides. -/
theorem less_last_eq {pre : List Value} {last u : Value} (hpre : ∀ v ∈ pre, v.isJson)
    (hgood : ∀ v ∈ pre, v.isListFree ∧ v.IsFinite)
    (h : Filter.related .less (.array (pre ++ [u])) (.array ((pre ++ [last]).map Value.freeze))
      = Filter.related .less (.array (pre ++ [u])) (.array ((pre ++ [last]).map Value.nulled))) :
    (Value.itemsHold? .less [u] [last.freeze]).getD false
      = (Value.itemsHold? .less [u] [last.nulled]).getD false := by
  have hsame : pre.map Value.nulled = pre :=
    (List.map_congr_left fun v hv => Value.nulled_eq_self (hgood v hv).2).trans pre.map_id'
  rwa [List.map_append, List.map_append, List.map_singleton, List.map_singleton, hsame,
    Filter.related, Filter.related, Value.holds?, Value.holds?, if_pos rfl, if_pos rfl,
    Value.itemsHold?_append hpre,
    Value.itemsHold?_append_freeze hpre fun v hv => (hgood v hv).1] at h

/-- Zero comes before the only double that is not finite and does not bar *less than*. -/
theorem less_zero_float (hx : ¬ (Value.float x).IsFinite)
    (hbarred : ¬ Operator.lessThan.isBarredBy x) :
    Value.itemsHold? .less [.int 0] [.float x] = some true := by
  have habove : x.place? = some .above := by
    unfold Operator.isBarredBy at hbarred
    cases hplace : x.place? with
    | none => simp [hplace] at hbarred
    | some q =>
      cases q with
      | above => rfl
      | below => simp [hplace] at hbarred
      | «at» n => exact absurd (Value.isFinite_float_iff_place?.mpr ⟨n, hplace⟩) hx
  have hown : (Value.float x).place? = some (some .above) := congrArg some habove
  have hunequal : Value.equal (.int 0) (.float x) = false := by
    show Value.samePlace (.int 0) (.float x) = false
    rw [Value.samePlace, hown]
    rfl
  rw [Value.itemsHold?, hunequal, if_neg Bool.false_ne_true, Value.holds?_float, hown]
  rfl

/-- An empty list and zero tell what the last item can be. -/
theorem last_of_less {last : Value} (hdata : last.IsAnyData) (hobject : last.hasObject = false)
    (h : ∀ u : Value, u.isJson → (Value.itemsHold? .less [u] [last.freeze]).getD false
      = (Value.itemsHold? .less [u] [last.nulled]).getD false) :
    last.isListFree ∧ (last.IsFinite ∨ ∃ x, last = .float x ∧ Operator.lessThan.isBarredBy x) ∨
      last = .array [] := by
  cases hdata with
  | null | bool | int | str => exact .inl ⟨rfl, .inl rfl⟩
  | object => contradiction
  | @list inner _ =>
    cases inner with
    | nil => exact .inr rfl
    | cons x rest =>
      have hempty := h (.array []) rfl
      rw [Value.nulled_list, Value.freeze, Value.withForm_list] at hempty
      contradiction
  | @float x _ =>
    refine .inl ⟨rfl, ?_⟩
    by_contra hnot
    push Not at hnot
    obtain ⟨hx, hbarred⟩ := hnot
    have hzero := h (.int 0) rfl
    rw [Value.nulled_float_of_not_isFinite hx] at hzero
    change (Value.itemsHold? .less [.int 0] [.float x]).getD false = _ at hzero
    rw [less_zero_float hx (hbarred x rfl)] at hzero
    contradiction

section

variable (hitems : ∀ v ∈ items, v.IsAnyData) (hobjects : ∀ v ∈ items, v.hasObject = false)
include hitems hobjects

/-! ### Membership -/

/-- A list among the items is looked for as it comes back. No frozen item is equal to it. -/
theorem forall_isListFree_of_isAmong {type : FieldType}
    (h : ∀ w : Value, w.isJson → w.isContainer →
      Filter.isAmong w ((items.map Value.freeze).map (Filter.convert type))
        = Filter.isAmong w ((items.map Value.nulled).map (Filter.convert type))) :
    ∀ v ∈ items, v.isListFree := by
  intro v hv
  cases hcontainer : v.isContainer with
  | false => exact Value.isListFree_of_scalar hcontainer
  | true =>
    cases v with
    | list form inner =>
      have hjson := Value.isJson_nulled (hitems _ hv)
      rw [Value.nulled_list] at hjson
      have hfound : Filter.isAmong (.list form (inner.map Value.nulled))
          ((items.map Value.nulled).map (Filter.convert type)) := by
        have hmem := List.mem_map_of_mem (f := Filter.convert type)
          (List.mem_map_of_mem (f := Value.nulled) hv)
        rw [Value.nulled_list, Filter.convert_container rfl] at hmem
        exact List.any_eq_true.mpr ⟨_, hmem, strictlyEqual_self hjson⟩
      rw [← h _ hjson rfl] at hfound
      obtain ⟨w, hw, hequal⟩ := List.any_eq_true.mp hfound
      rw [List.map_map] at hw
      obtain ⟨u, -, rfl⟩ := List.mem_map.mp hw
      have hfrozen : Filter.convert type u.freeze = (Filter.convert type u).freeze :=
        Filter.convert_withForm .frozen u
      rw [Function.comp_apply, hfrozen] at hequal
      exact absurd (Value.isListFree_of_equal_freeze hjson (equal_of_strictlyEqual hequal))
        Bool.false_ne_true
    | object => exact absurd (hobjects _ hv) (by simp [Value.hasObject])
    | _ => contradiction

/-- An infinity among the items is looked for. Nothing that comes back is equal to it. -/
theorem isFinite_or_nan_of_isAmong {type : FieldType} (htype : type ≠ .boolean)
    (h : ∀ x : Binary64, x.place? ≠ none → ¬ (Value.float x).IsFinite →
      Filter.isAmong (.float x) ((items.map Value.freeze).map (Filter.convert type))
        = Filter.isAmong (.float x) ((items.map Value.nulled).map (Filter.convert type)))
    (hfree : ∀ v ∈ items, v.isListFree) :
    ∀ v ∈ items, v.IsFinite ∨ ∃ x : Binary64, v = .float x ∧ x.place? = none := by
  intro v hv
  cases v with
  | float x =>
    by_contra hnot
    push Not at hnot
    obtain ⟨hx, hplace⟩ := hnot
    have hnumber := hplace x rfl
    have hmem := List.mem_map_of_mem (f := Filter.convert type)
      (List.mem_map_of_mem (f := Value.freeze) hv)
    have hfound : Filter.isAmong (.float x)
        ((items.map Value.freeze).map (Filter.convert type)) := by
      change Filter.convert type (.float x) ∈ _ at hmem
      rw [Filter.convert_float hx type htype] at hmem
      exact List.any_eq_true.mpr
        ⟨_, hmem, strictlyEqual_self (Value.isJson_float_iff.mpr hnumber)⟩
    rw [h x hnumber hx] at hfound
    obtain ⟨w, hw, hequal⟩ := List.any_eq_true.mp hfound
    obtain ⟨u, hu, rfl⟩ := List.mem_map.mp hw
    obtain ⟨z, -, rfl⟩ := List.mem_map.mp hu
    exact hx (Value.isFinite_of_equal (equal_of_strictlyEqual hequal)
      (Filter.isFinite_convert type (Value.isFinite_nulled z)))
  | list => exact absurd (hfree _ hv) Bool.false_ne_true
  | object => exact absurd (hobjects _ hv) (by simp [Value.hasObject])
  | unset | bytes | date | moment => cases hitems _ hv
  | _ => exact .inl rfl

end

/-! ### All operators -/

/-- Two answers that agree on what is there come from two look-ups that agree. -/
theorem isAmong_eq_of_answerNulled (hop : op.takesList)
    (h : ∀ v : Value, v.isJson →
      answer op (Value.array items).freeze v = answerNulled op (.array items) v)
    (hw : w.isJson) (hsame : Filter.convert (typeOf (.array items)) w = w)
    (hnull : w.isNull = false) :
    Filter.isAmong w ((items.map Value.freeze).map (Filter.convert (typeOf (.array items))))
      = Filter.isAmong w
        ((items.map Value.nulled).map (Filter.convert (typeOf (.array items)))) := by
  have hset : w.isUnset = false := by cases w <;> first | rfl | contradiction
  have hpresent : ∀ result, Filter.whenPresent w result = result := by
    intro result
    rw [Filter.whenPresent, hnull, hset]
    rfl
  have hanswers := h w hw
  rw [answer_freeze_list_takesList hop, answerNulled_takesList hop, hsame, hpresent, hpresent]
    at hanswers
  exact isAmong_eq_of_compare hop hanswers

/-- A double that is not finite. -/
theorem isBarredBy_of_answerNulled {name : String} (hname : Operator.ofStoreName? name = some op)
    (hop : op ≠ .regex) (hx : ¬ (Value.float x).IsFinite)
    (h : ∀ v : Value, v.isJson → answer op (.float x) v = answerNulled op (.float x) v) :
    op.isBarredBy x := by
  have hsatisfied : ¬ ∃ v : Value, v.isJson ∧ answer op (.float x) v = .ok true := by
    rintro ⟨v, hv, hanswer⟩
    rw [h v hv, answerNulled_float hx (holdsOfNull_of_ofStoreName? hname)] at hanswer
    cases hanswer
  rcases cases_of_ofStoreName? hname with hwhole | hlist | hregex
  · by_contra hbarred
    exact hsatisfied (exists_answer_float hwhole hx hbarred)
  · exact absurd (exists_answer_float_list hlist hx) hsatisfied
  · exact absurd hregex hop

section

variable (hitems : ∀ v ∈ items, v.IsAnyData) (hobjects : ∀ v ∈ items, v.hasObject = false)
  (hfinite : ¬ (Value.array items).IsFinite)
include hitems hobjects

theorem reads_list_takesList (hop : op.takesList)
    (h : ∀ v : Value, v.isJson →
      answer op (Value.array items).freeze v = answerNulled op (.array items) v) :
    op.ReadsFrozen (.array items) ∧ op.ReadsNulled (.array items) := by
  have htype := typeOf_list_ne_boolean items
  have hfree := forall_isListFree_of_isAmong hitems hobjects fun w hw hcontainer =>
    isAmong_eq_of_answerNulled hop h hw (Filter.convert_container hcontainer)
      (by cases w <;> first | rfl | contradiction)
  have hnumbers := isFinite_or_nan_of_isAmong hitems hobjects htype (fun x hx hnot =>
    isAmong_eq_of_answerNulled hop h (Value.isJson_float_iff.mpr hx)
      (Filter.convert_float hnot _ htype) rfl) hfree
  have hobject : ¬ (Value.array items).isObject := by simp [Value.isObject]
  cases op with
  | isIn | notIn => exact ⟨⟨hobject, hfree⟩, .inr hnumbers⟩
  | _ => contradiction

include hfinite

theorem reads_list_lessThan (h : ∀ w : Value, w.isJson → w.isContainer →
      Filter.related .less w (.array (items.map Value.freeze))
        = Filter.related .less w (.array (items.map Value.nulled))) :
    Operator.lessThan.ReadsFrozen (.array items) ∧
      Operator.lessThan.ReadsNulled (.array items) := by
  have hlast : ∀ pre last, items = pre ++ [last] → (∀ v ∈ pre, v.isListFree ∧ v.IsFinite) ∧
      (last.isListFree ∧ (last.IsFinite ∨ ∃ x, last = .float x ∧ Operator.lessThan.isBarredBy x) ∨
        last = .array []) := by
    rintro pre last hsplit
    have hdata := hitems
    have hobject := hobjects
    rw [hsplit, List.forall_mem_append, List.forall_mem_singleton] at hdata hobject
    have hback := isJson_map_nulled hdata.1
    have hgood := forall_of_less hitems hobjects hsplit
      (h _ (Value.isJson_array hback) rfl)
    have hpre : ∀ v ∈ pre, v.isJson := fun v hv => (hdata.1 v hv).isJson (hgood v hv).2
    refine ⟨hgood, last_of_less hdata.2 hobject.2 fun u hu => ?_⟩
    have hw : (Value.array (pre ++ [u])).isJson :=
      Value.isJson_append hpre (List.forall_mem_singleton.mpr hu)
    exact less_last_eq hpre hgood (hsplit ▸ h _ hw rfl)
  refine ⟨fun pre last hsplit => ?_, .inr ?_⟩
  · obtain ⟨hpre, hend⟩ := hlast pre last hsplit
    exact ⟨fun v hv => (hpre v hv).1, hend.imp And.left .inr⟩
  · -- The list is not finite, so it has a last item, and that is what is not finite.
    rcases List.eq_nil_or_concat' items with rfl | ⟨pre, last, rfl⟩
    · exact absurd rfl hfinite
    · obtain ⟨hpre, hend⟩ := hlast pre last rfl
      have hinfinite : ¬ last.IsFinite := fun hfin =>
        hfinite (Value.isFinite_list_iff.mpr (List.forall_mem_append.mpr
          ⟨fun v hv => (hpre v hv).2, List.forall_mem_singleton.mpr hfin⟩))
      rcases hend with ⟨-, hfin | ⟨x, rfl, hx⟩⟩ | rfl
      · exact absurd hfin hinfinite
      · exact ⟨pre, x, rfl, fun v hv => (hpre v hv).2, hx⟩
      · exact absurd rfl hinfinite

/-- A list that is not finite. -/
theorem reads_list_of_answerNulled {name : String} (hname : Operator.ofStoreName? name = some op)
    (hop : op ≠ .regex)
    (h : ∀ v : Value, v.isJson →
      answer op (Value.array items).freeze v = answerNulled op (.array items) v) :
    op.ReadsFrozen (.array items) ∧ op.ReadsNulled (.array items) := by
  have hback := isJson_map_nulled hitems
  have hself : (Value.array (items.map Value.nulled)).isJson := Value.isJson_array hback
  have hnot : ¬ ∀ v ∈ items, v.isListFree ∧ v.IsFinite := fun hall =>
    hfinite (Value.isFinite_list_iff.mpr fun v hv => (hall v hv).2)
  have hcompare : op.comparesWhole → ∀ w : Value, w.isJson → w.isContainer →
      Filter.compare w op (.array (items.map Value.freeze))
        = Filter.compare w op (.array (items.map Value.nulled)) :=
    fun hwhole w hw hcontainer => compare_eq_of_answerNulled hwhole h hw hcontainer
  cases op with
  | equals =>
    have hsame := Except.ok.inj (hcompare rfl _ hself rfl)
    exact absurd (forall_of_strictlyEqual hitems hobjects hsame) hnot
  | notEquals =>
    have hsame := Bool.not_inj (Except.ok.inj (hcompare rfl _ hself rfl))
    exact absurd (forall_of_strictlyEqual hitems hobjects hsame) hnot
  -- A list with one more item comes after what comes back.
  | greaterThan | greaterThanOrEqual =>
    have hlonger : (Value.array (items.map Value.nulled ++ [.null])).isJson :=
      Value.isJson_append hback (List.forall_mem_singleton.mpr rfl)
    have hsame := Except.ok.inj (hcompare rfl _ hlonger rfl)
    exact absurd (forall_of_related hitems hobjects [.null] rfl hsame) hnot
  -- What comes back does not come after itself.
  | lessThanOrEqual =>
    have hsame := Except.ok.inj (hcompare rfl _ hself rfl)
    refine absurd (forall_of_related (r := .lessOrEqual) hitems hobjects [] rfl ?_) hnot
    rwa [List.append_nil]
  | lessThan =>
    exact reads_list_lessThan hitems hobjects hfinite fun w hw hcontainer =>
      Except.ok.inj (hcompare rfl w hw hcontainer)
  | isIn | notIn => exact reads_list_takesList hitems hobjects rfl h
  | _ => rcases cases_of_ofStoreName? hname with hno | hno | hno <;> contradiction

end

/-- **An operator that answers alike for every field value of JSON** reads its argument frozen and
with nulls. -/
theorem reads_of_answerNulled {name : String} (hname : Operator.ofStoreName? name = some op)
    (hop : op ≠ .regex) (hargument : argument.IsAnyData) (hobject : argument.hasObject = false)
    (h : ∀ v : Value, v.isJson → answer op argument.freeze v = answerNulled op argument v) :
    op.ReadsFrozen argument ∧ op.ReadsNulled argument := by
  by_cases hfinite : argument.IsFinite
  · have hjson := hargument.isJson hfinite
    refine ⟨readsFrozen_of_answer_freeze hjson fun v hv => ?_, .inl hfinite⟩
    rw [h v hv, answerNulled_of_isFinite hop hjson hfinite]
  cases hargument with
  | null | bool | int | str => exact absurd rfl hfinite
  | object => contradiction
  | @float x _ =>
    have hbarred := isBarredBy_of_answerNulled hname hop hfinite h
    exact ⟨readsFrozen_of_scalar rfl, .inr (by cases op <;> exact hbarred)⟩
  | list hitems =>
    exact reads_list_of_answerNulled hitems (Value.hasObject_list.mp hobject) hfinite hname hop h

/-- Where an operator reads its argument differently, some field value shows it. -/
theorem exists_answer_freeze_ne_answerNulled {name : String}
    (hname : Operator.ofStoreName? name = some op) (hop : op ≠ .regex)
    (hargument : argument.IsAnyData) (hobject : argument.hasObject = false)
    (hreads : ¬ (op.ReadsFrozen argument ∧ op.ReadsNulled argument)) :
    ∃ v : Value, v.isJson ∧ answer op argument.freeze v ≠ answerNulled op argument v := by
  by_contra hnone
  push Not at hnone
  exact hreads (reads_of_answerNulled hname hop hargument hobject hnone)

end Query

end DocView
