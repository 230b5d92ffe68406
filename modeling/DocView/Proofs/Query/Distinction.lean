import DocView.Proofs.Query.Freezing
import DocView.Proofs.Value.Text

/-!
# Field values that tell a frozen argument apart

Where an operator does not read the frozen copy of its argument as the argument, some field value
of JSON gets two answers. Which one depends on the operator:

* for equality it is the argument itself, and for membership an item of it that is not list-free;
* for the orders it is a list that agrees with the argument up to the item that is not list-free
  and is decided only after it: the argument with one more item, the argument itself, or for *less
  than* what comes before its last item;
* for membership in an object it is a text that the plain object lists and the frozen one does not.

All of them are made of the argument and of nulls and texts, so they are values of JSON if the
argument is.

## Main results

* `Query.readsFrozen_of_answer_freeze`
-/

namespace DocView.Query

variable {op : Operator} {argument v w : Value} {items : List Value}

/-- An argument that is no container is its own frozen copy. -/
theorem readsFrozen_of_scalar (hargument : argument.isContainer = false) :
    op.ReadsFrozen argument := by
  have hflat : argument.IsFlat := by cases argument <;> first | rfl | contradiction
  have hbefore : argument.IsFlatBeforeLast := by cases argument <;> trivial
  have hobject : ¬ argument.isObject := by
    cases argument <;> first | contradiction | simp [Value.isObject]
  cases op with
  | equals | notEquals => exact hflat
  | greaterThan | greaterThanOrEqual | lessThanOrEqual => exact .inr hflat
  | lessThan => exact hbefore
  | regex =>
    intro text
    rw [Value.freeze, Value.withForm_of_scalar hargument, plainList_of_scalar hargument]
  | isIn | notIn => exact ⟨hobject, hflat⟩
  | _ => trivial

/-! ### Equality -/

theorem strictlyEqual_self (hv : v.isJson) : v.strictlyEqual v :=
  Value.strictlyEqual_iff.mpr ⟨rfl, Value.equal_self hv⟩

theorem equal_of_strictlyEqual (h : v.strictlyEqual w) : Value.equal v w :=
  (Value.strictlyEqual_iff.mp h).2

/-- An argument that is equal to its frozen copy, made plain at the top, is flat. -/
theorem isFlat_of_strictlyEqual (hargument : argument.isJson)
    (h : argument.strictlyEqual (plainList argument.freeze)) : argument.IsFlat := by
  replace h := equal_of_strictlyEqual h
  cases argument with
  | list form items =>
    obtain ⟨rfl, hitems⟩ := Value.isJson_list.mp hargument
    rw [plainList_freeze_list, Value.equal, Bool.and_eq_true] at h
    exact Value.isListFree_of_equalItems hitems h.2
  | object => exact Value.isListFree_of_equal_freeze hargument h
  | _ => rfl

/-! ### Orders -/

/-- If a list with more items is decided by these, then the items before are list-free. -/
theorem isListFree_of_related {r : Relation} {tail : List Value} (hitems : ∀ v ∈ items, v.isJson)
    (ys : List Value) (zs : List Value) (htail : Value.itemsHold? r tail ys = some true)
    (h : Filter.related r (.array (items ++ tail)) (.array (items.map Value.freeze ++ zs))
      = Filter.related r (.array (items ++ tail)) (.array (items ++ ys))) :
    ∀ v ∈ items, v.isListFree := by
  by_contra hfree
  push Not at hfree
  have hplain : Value.holds? r (.array (items ++ tail)) (.array (items ++ ys)) = some true := by
    show Value.itemsHold? r (items ++ tail) (items ++ ys) = _
    rw [Value.itemsHold?_append hitems, htail]
  have hfrozen : Value.holds? r (.array (items ++ tail)) (.array (items.map Value.freeze ++ zs))
      = none :=
    Value.itemsHold?_freeze_eq_none hitems hfree tail zs
  rw [Filter.related, Filter.related, hplain, hfrozen] at h
  contradiction

/-- What the order says of a longer list is decided at the end of the argument. -/
theorem isFlat_of_related {r : Relation} (tail : List Value) (hargument : argument.isJson)
    (hcontainer : argument.isContainer) (htail : Value.itemsHold? r tail [] = some true)
    (hnull : ∀ v ∈ tail, v = .null)
    (h : ∀ w : Value, w.isJson → w.isContainer →
      Filter.related r w (plainList argument.freeze) = Filter.related r w argument) :
    argument.isObject ∨ argument.IsFlat := by
  cases argument with
  | list form items =>
    obtain ⟨rfl, hitems⟩ := Value.isJson_list.mp hargument
    have hlonger : (Value.array (items ++ tail)).isJson :=
      Value.isJson_append hitems fun v hv => hnull v hv ▸ rfl
    have hsame := h (.array (items ++ tail)) hlonger rfl
    rw [plainList_freeze_list] at hsame
    refine .inr (isListFree_of_related hitems [] [] htail ?_)
    rw [List.append_nil, List.append_nil]
    exact hsame
  | object => exact .inl rfl
  | _ => contradiction

/-- An empty list in the place of a last item that is a longer list comes before, and has no order
with the frozen copy. -/
theorem less_last_told_apart {pre rest : List Value} {x : Value} (hpre : ∀ v ∈ pre, v.isJson)
    (hfree : ∀ v ∈ pre, v.isListFree) :
    Filter.related .less (.array (pre ++ [.array []]))
        (.array (pre.map Value.freeze ++ [(Value.array (x :: rest)).freeze]))
      ≠ Filter.related .less (.array (pre ++ [.array []]))
        (.array (pre ++ [.array (x :: rest)])) := by
  have hplain : Value.holds? .less (.array (pre ++ [.array []]))
      (.array (pre ++ [.array (x :: rest)])) = some true :=
    Value.itemsHold?_append hpre [.array []] [.array (x :: rest)]
  have hfrozen : Value.holds? .less (.array (pre ++ [.array []]))
      (.array (pre.map Value.freeze ++ [(Value.array (x :: rest)).freeze])) = none :=
    Value.itemsHold?_append_freeze hpre hfree [.array []] [(Value.array (x :: rest)).freeze]
  rw [Filter.related, Filter.related, hplain, hfrozen]
  decide

/-- *Less than* is asked about what comes before the last item, and about an empty list in its
place. -/
theorem isFlatBeforeLast_of_related (hargument : argument.isJson)
    (h : ∀ w : Value, w.isJson → w.isContainer →
      Filter.related .less w (plainList argument.freeze) = Filter.related .less w argument) :
    argument.IsFlatBeforeLast := by
  cases argument with
  | list form items =>
    obtain ⟨rfl, hitems⟩ := Value.isJson_list.mp hargument
    intro pre last hsplit
    rw [hsplit] at hitems h
    obtain ⟨hpre, hlast⟩ := List.forall_mem_append.mp hitems
    rw [plainList_freeze_list, List.map_append, List.map_singleton] at h
    have hfree : ∀ v ∈ pre, v.isListFree := by
      have hw : (Value.array (pre ++ [])).isJson := Value.isJson_append hpre (List.forall_mem_nil _)
      have hbefore := h (.array (pre ++ [])) hw rfl
      exact isListFree_of_related hpre [last] [last.freeze] rfl hbefore
    refine ⟨hfree, ?_⟩
    by_contra hkind
    push Not at hkind
    obtain ⟨hlastfree, hobject, hempty⟩ := hkind
    cases last with
    | list form inner =>
      obtain ⟨rfl, -⟩ := Value.isJson_list.mp (hlast _ List.mem_cons_self)
      cases inner with
      | nil => exact hempty rfl
      | cons x rest =>
        have hw : (Value.array (pre ++ [.array []])).isJson :=
          Value.isJson_append hpre (List.forall_mem_singleton.mpr rfl)
        exact less_last_told_apart hpre hfree (h _ hw rfl)
    | object => exact absurd rfl hobject
    | _ => exact absurd rfl hlastfree
  | _ => trivial

/-! ### Membership -/

theorem isAmong_eq_of_compare {as bs : List Value} (hop : op.takesList)
    (h : Filter.compare w op (.array as) = Filter.compare w op (.array bs)) :
    Filter.isAmong w as = Filter.isAmong w bs := by
  cases op with
  | isIn => exact Except.ok.inj h
  | notIn => exact Bool.not_inj (Except.ok.inj h)
  | _ => contradiction

/-- An item that is not list-free is told apart by being looked for. -/
theorem isListFree_of_isAmong (type : FieldType) (hitems : ∀ v ∈ items, v.isJson)
    (h : ∀ w ∈ items, w.isContainer →
      Filter.isAmong w ((items.map Value.freeze).map (Filter.convert type))
        = Filter.isAmong w (items.map (Filter.convert type))) :
    ∀ v ∈ items, v.isListFree := by
  intro v hv
  cases hcontainer : v.isContainer with
  | false => exact Value.isListFree_of_scalar hcontainer
  | true =>
    have hsame : Filter.convert type v = v := Filter.convert_container hcontainer
    have hamong : Filter.isAmong v (items.map (Filter.convert type)) := by
      refine List.any_eq_true.mpr ⟨v, List.mem_map.mpr ⟨v, hv, hsame⟩, ?_⟩
      exact strictlyEqual_self (hitems v hv)
    -- Found among the plain items, the item has to be equal to one of the frozen ones too.
    rw [← h v hv hcontainer] at hamong
    obtain ⟨w, hw, hequal⟩ := List.any_eq_true.mp hamong
    rw [List.map_map] at hw
    obtain ⟨u, -, rfl⟩ := List.mem_map.mp hw
    have hfrozen : Filter.convert type u.freeze = (Filter.convert type u).freeze :=
      Filter.convert_withForm .frozen u
    rw [Function.comp_apply, hfrozen] at hequal
    exact Value.isListFree_of_equal_freeze (hitems v hv) (equal_of_strictlyEqual hequal)

theorem isAmong_texts (t : String) (texts : List String) :
    Filter.isAmong (.str t) ((texts.map Value.str).map (Filter.convert .string)) ↔ t ∈ texts := by
  have hconvert : (texts.map Value.str).map (Filter.convert .string) = texts.map Value.str := by
    rw [List.map_map]
    exact List.map_congr_left fun s _ => Filter.convert_string (.str s)
  rw [hconvert, Filter.isAmong, List.any_eq_true]
  constructor
  · rintro ⟨v, hv, hequal⟩
    obtain ⟨s, hs, rfl⟩ := List.mem_map.mp hv
    obtain rfl : t = s := beq_iff_eq.mp (equal_of_strictlyEqual hequal)
    exact hs
  · exact fun ht => ⟨.str t, List.mem_map.mpr ⟨t, ht, rfl⟩, strictlyEqual_self rfl⟩

/-! ### All operators -/

/-- Two answers that agree come from two comparisons that agree. -/
theorem compare_eq_of_answer (hop : op.comparesWhole) (hargument : argument.isJson)
    (hcontainer : argument.isContainer)
    (h : ∀ v : Value, v.isJson → answer op argument.freeze v = answer op argument v)
    (hw : w.isJson) (hwcontainer : w.isContainer) :
    Filter.compare w op (plainList argument.freeze) = Filter.compare w op argument := by
  have hfrozen : argument.freeze.isContainer := Value.isContainer_freeze hcontainer
  have hsame := h w hw
  rw [answer_containers hop hfrozen hwcontainer, answer_containers hop hcontainer hwcontainer,
    plainList_of_isJson hargument] at hsame
  exact hsame

theorem readsFrozen_takesList (hop : op.takesList) (hargument : argument.isJson)
    (hcontainer : argument.isContainer)
    (h : ∀ v : Value, v.isJson → answer op argument.freeze v = answer op argument v) :
    ¬ argument.isObject ∧ argument.IsFlat := by
  cases argument with
  | list form items =>
    obtain ⟨rfl, hitems⟩ := Value.isJson_list.mp hargument
    refine ⟨by simp [Value.isObject], isListFree_of_isAmong (typeOf (.array items)) hitems ?_⟩
    intro w hw hwcontainer
    have hsame := h w (hitems w hw)
    rw [answer_takesList hop rfl, answer_takesList hop rfl, listItems_freeze_list, typeOf_freeze,
      Filter.convert_container hwcontainer, Filter.whenPresent_container hwcontainer,
      Filter.whenPresent_container hwcontainer] at hsame
    exact isAmong_eq_of_compare hop hsame
  | object form members =>
    obtain ⟨rfl, -⟩ := Value.isJson_object.mp hargument
    obtain ⟨item, hitem, hfrozen⟩ := Value.exists_commaItem_notMem_freeze members
    have htype : typeOf (.record members) = .string := rfl
    have hthere : ∀ result, Filter.whenPresent (.str item) result = result := fun _ => rfl
    have hplain : Filter.listItems (plainList (.record members))
        = (Text.commaItems (Value.record members).text).map .str := rfl
    have hother : Filter.listItems (plainList (Value.record members).freeze)
        = (Text.commaItems (Value.record members).freeze.text).map .str := rfl
    have hsame := h (.str item) rfl
    rw [answer_takesList hop rfl, answer_takesList hop rfl, typeOf_freeze, htype,
      Filter.convert_string, hthere, hthere, hplain, hother] at hsame
    have hamong := isAmong_eq_of_compare hop hsame
    refine absurd ((isAmong_texts item _).mp ?_) hfrozen
    rw [hamong]
    exact (isAmong_texts item _).mpr hitem
  | _ => contradiction

/-- **An operator that answers alike for every field value of JSON reads the frozen argument
correctly.** -/
theorem readsFrozen_of_answer_freeze (hargument : argument.isJson)
    (h : ∀ v : Value, v.isJson → answer op argument.freeze v = answer op argument v) :
    op.ReadsFrozen argument := by
  cases hcontainer : argument.isContainer with
  | false => exact readsFrozen_of_scalar hcontainer
  | true =>
    cases op with
    | equals =>
      have hself := compare_eq_of_answer rfl hargument hcontainer h hargument hcontainer
      refine isFlat_of_strictlyEqual hargument ?_
      rw [← strictlyEqual_self hargument]
      exact Except.ok.inj hself
    | notEquals =>
      have hself := compare_eq_of_answer rfl hargument hcontainer h hargument hcontainer
      refine isFlat_of_strictlyEqual hargument ?_
      rw [← strictlyEqual_self hargument]
      exact Bool.not_inj (Except.ok.inj hself)
    -- A list with one more item comes after the argument.
    | greaterThan =>
      refine isFlat_of_related (r := .greater) [.null] hargument hcontainer rfl
        (by simp) fun w hw hwc => ?_
      exact Except.ok.inj (compare_eq_of_answer rfl hargument hcontainer h hw hwc)
    | greaterThanOrEqual =>
      refine isFlat_of_related (r := .greaterOrEqual) [.null] hargument hcontainer rfl
        (by simp) fun w hw hwc => ?_
      exact Except.ok.inj (compare_eq_of_answer rfl hargument hcontainer h hw hwc)
    -- The argument does not come after itself.
    | lessThanOrEqual =>
      refine isFlat_of_related (r := .lessOrEqual) [] hargument hcontainer rfl
        (by simp) fun w hw hwc => ?_
      exact Except.ok.inj (compare_eq_of_answer rfl hargument hcontainer h hw hwc)
    | lessThan =>
      refine isFlatBeforeLast_of_related hargument fun w hw hwc => ?_
      exact Except.ok.inj (compare_eq_of_answer rfl hargument hcontainer h hw hwc)
    | isIn | notIn => exact readsFrozen_takesList rfl hargument hcontainer h
    | regex =>
      intro text
      have hfrozen : argument.freeze.isContainer := Value.isContainer_freeze hcontainer
      have hsame := h (.str text) rfl
      rw [answer_regex, answer_regex, evaluate_regex (display_plainList_ne_empty hfrozen),
        evaluate_regex (display_plainList_ne_empty hcontainer), plainList_of_isJson hargument]
        at hsame
      exact hsame
    | _ => trivial

/-- Where an operator does not read the frozen argument correctly, some field value shows it. -/
theorem exists_answer_freeze_ne (hargument : argument.isJson) (hreads : ¬ op.ReadsFrozen argument) :
    ∃ v : Value, v.isJson ∧ answer op argument.freeze v ≠ answer op argument v := by
  by_contra hnone
  push Not at hnone
  exact hreads (readsFrozen_of_answer_freeze hargument hnone)

end DocView.Query
