import DocView.Proofs.Query.Distinction
import DocView.Proofs.Server.Rendering

/-!
# Arguments with numbers that JSON does not have

A text may give a NaN or an infinity as the argument of an operator, and the condition that is sent
for it comes back with null in the place of that number, and with the type as it was. Null compares
with nothing. So the difference goes unnoticed where the number compares with nothing either:

* nothing is equal to a NaN or has an order with it, nothing comes after positive infinity, and
  nothing before negative infinity;
* nothing is found in a list by an item that is a NaN;
* *less than* a list depends on the last item in this way, as far as the items before are finite.

So there is a condition for each operator again, and this module shows that it is enough. The
argument is frozen here and comes back plain, so the condition goes along with the one that says
when an argument may be frozen.

## Main definitions

* `Operator.isBarredBy`, `Operator.ReadsNulled`
* `Query.answerNulled`

## Main results

* `Filter.compare_float` - an operator that is barred by a double is satisfied by nothing
* `Query.answer_freeze_eq_answerNulled` - where both conditions hold, no field value is told apart
-/

namespace DocView

/-- Whether no value satisfies an operator with a double. -/
def Operator.isBarredBy (op : Operator) (x : Binary64) : Bool :=
  match op, x.place? with
  | .equals, none | .greaterThan, none | .greaterThanOrEqual, none | .lessThan, none
  | .lessThanOrEqual, none => true
  | .greaterThan, some .above => true
  | .lessThan, some .below => true
  | _, _ => false

/-- Whether null in the place of numbers that JSON does not have is as good as the argument. -/
def Operator.ReadsNulled (op : Operator) (argument : Value) : Prop :=
  argument.IsFinite ∨
    match op, argument with
    | .lessThan, .list _ items => ∃ pre x, items = pre ++ [.float x] ∧ (∀ v ∈ pre, v.IsFinite) ∧
        Operator.lessThan.isBarredBy x
    | .isIn, .list _ items | .notIn, .list _ items =>
      ∀ v ∈ items, v.IsFinite ∨ ∃ x : Binary64, v = .float x ∧ x.place? = none
    | op, .float x => op.isBarredBy x
    | _, _ => False

namespace Value

variable {v : Value} {items : List Value} {x : Binary64}

/-! ### Doubles -/

theorem isFinite_float_iff_place? : (Value.float x).IsFinite ↔ ∃ n, x.place? = some (.at n) :=
  isFinite_float_iff.trans Binary64.isFinite_iff_place?

theorem isJson_float_iff : (Value.float x).isJson ↔ x.place? ≠ none := by
  cases hnan : x.isNaN with
  | true => simp [isJson, hnan, Binary64.place?]
  | false => simp [isJson, hnan, Option.isSome_iff_ne_none.mp (Binary64.place?_isSome hnan)]

/-- Nothing is equal to a NaN. -/
theorem equal_float_of_nan (hx : x.place? = none) (w : Value) : w.equal (.float x) = false := by
  have hplace : (Value.float x).place? = some none := congrArg some hx
  have hequal : w.equal (.float x) = samePlace w (.float x) := by cases w <;> rfl
  rw [hequal, samePlace, hplace]
  rcases w.place? with _ | _ | p <;> rfl

/-- The order with a double is a matter of places. -/
theorem holds?_float (r : Relation) (w : Value) (x : Binary64) :
    w.holds? r (.float x) = match w.place?, (Value.float x).place? with
      | some (some p), some (some q) => some (r.accepts (p.compare q))
      | some _, some _ => some false
      | _, _ => none := by
  cases w <;> rfl

/-- Nothing has an order with a NaN. -/
theorem holds?_float_of_nan (hx : x.place? = none) (r : Relation) (w : Value) :
    w.holds? r (.float x) ≠ some true := by
  have hplace : (Value.float x).place? = some none := congrArg some hx
  rw [holds?_float, hplace]
  rcases w.place? with _ | _ | p <;> simp

/-- Nothing stands in a relation to a place if no place does. -/
theorem holds?_float_of_place {q : Binary64.Place} (hx : x.place? = some q)
    (hr : ∀ p : Binary64.Place, r.accepts (p.compare q) = false) (w : Value) :
    w.holds? r (.float x) ≠ some true := by
  have hplace : (Value.float x).place? = some (some q) := congrArg some hx
  rw [holds?_float, hplace]
  rcases w.place? with _ | _ | p <;> simp [hr]

/-- Nothing comes before a double that bars *less than*. -/
theorem isLeast_float (hx : Operator.lessThan.isBarredBy x) : IsLeast (.float x) := by
  unfold Operator.isBarredBy at hx
  cases hplace : x.place? with
  | none => exact holds?_float_of_nan hplace .less
  | some q =>
    cases q with
    | below => exact holds?_float_of_place hplace fun p => by cases p <;> rfl
    | _ => simp [hplace] at hx

/-- Nothing comes before null. -/
theorem isLeast_null : IsLeast .null := by
  intro w
  cases w <;> simp [holds?, place?]

end Value

namespace Filter

variable {op : Operator} {x : Binary64}

/-- **An operator that is barred by a double is satisfied by nothing.** -/
theorem compare_float (hop : op.isBarredBy x) (w : Value) :
    compare w op (.float x) = .ok false := by
  have hrelated : ∀ r : Relation, w.holds? r (.float x) ≠ some true →
      related r w (.float x) = false := fun r hr => Bool.eq_false_iff.mpr (mt related_iff.mp hr)
  unfold Operator.isBarredBy at hop
  cases hplace : x.place? with
  | none =>
    rw [hplace] at hop
    cases op with
    | equals =>
      rw [compare, Value.strictlyEqual, Value.equal_float_of_nan hplace, ite_self]
    | greaterThan | greaterThanOrEqual | lessThan | lessThanOrEqual =>
      exact congrArg Except.ok (hrelated _ (Value.holds?_float_of_nan hplace _ w))
    | _ => contradiction
  | some q =>
    rw [hplace] at hop
    cases op with
    | greaterThan =>
      cases q with
      | above =>
        refine congrArg Except.ok (hrelated _ (Value.holds?_float_of_place hplace ?_ w))
        exact fun p => by cases p <;> rfl
      | _ => contradiction
    | lessThan =>
      cases q with
      | below =>
        refine congrArg Except.ok (hrelated _ (Value.holds?_float_of_place hplace ?_ w))
        exact fun p => by cases p <;> rfl
      | _ => contradiction
    | _ => cases q <;> contradiction

/-- A double that is not finite is converted to no number. -/
theorem convert_float (hx : ¬ (Value.float x).IsFinite) (type : FieldType)
    (hboolean : type ≠ .boolean) : convert type (.float x) = .float x := by
  have hnot : x.isFinite = false := Value.isFinite_eq_false_of_not hx
  have hnumber : coerceNumber (.float x) = none := by
    rw [coerceNumber, Number.ofFloat?, hnot]
    rfl
  cases type with
  | number => simp [convert, Value.isBlank, hnumber]
  | boolean => exact absurd rfl hboolean
  | _ => rfl

end Filter

namespace Query

variable {op : Operator} {argument v w : Value} {items : List Value} {x : Binary64}

/-- What the condition of an operator says about a field value when it has come back with null for
numbers that JSON does not have, and with the type as it was. -/
def answerNulled (op : Operator) (argument v : Value) : Result Bool :=
  Filter.evaluate (Filter.prepareFieldValue (typeOf argument) v) (some op)
    (Filter.prepareFilterValue (typeOf argument) (some op) argument.nulled)

/-- A finite argument comes back as it was. -/
theorem answerNulled_of_isFinite (hop : op ≠ .regex) (hargument : argument.isJson)
    (hfinite : argument.IsFinite) (v : Value) :
    answerNulled op argument v = answer op argument v := by
  rw [answerNulled, Value.nulled_eq_self hfinite, answer, operatorCondition, if_neg hop,
    plainList_of_isJson hargument]
  rfl

/-! ### Doubles -/

/-- A comparison with null is not satisfied. -/
theorem answerNulled_float (hx : ¬ (Value.float x).IsFinite) (hop : op.holdsOfNull = false)
    (v : Value) : answerNulled op (.float x) v = .ok false := by
  have hnull : Filter.prepareFilterValue (typeOf (.float x)) (some op) .null = .null := rfl
  rw [answerNulled, Value.nulled_float_of_not_isFinite hx, hnull]
  simp [Filter.evaluate, Value.isBlank, hop]

/-- An argument that is a double is taken as it is. -/
theorem answer_float_eq_evaluate (hop : op.comparesWhole) (hx : ¬ (Value.float x).IsFinite)
    (v : Value) :
    answer op (.float x) v = Filter.evaluate (Filter.convert .number v) (some op) (.float x) := by
  have hregex : op ≠ .regex := by rintro rfl; contradiction
  have hapart : Filter.isTakenApart .number (some op) (.float x) = false := by
    cases op <;> first | rfl | contradiction
  have hprepared : Filter.prepareFilterValue .number (some op) (.float x) = .float x := by
    rw [Filter.prepareFilterValue_whole hapart, Filter.convert_float hx .number (by decide)]
  rw [answer, operatorCondition, if_neg hregex]
  show Filter.evaluate (Filter.convert .number v) (some op)
    (Filter.prepareFilterValue .number (some op) (.float x)) = _
  rw [hprepared]

/-- What is there is compared with it. -/
theorem answer_float (hop : op.comparesWhole) (hx : ¬ (Value.float x).IsFinite) (v : Value) :
    answer op (.float x) v
      = Filter.whenPresent (Filter.convert .number v)
          (Filter.compare (Filter.convert .number v) op (.float x)) := by
  have hcheck : op.isNullCheck = false := by cases op <;> first | rfl | contradiction
  have habsent : op.holdsOfNull = false := by cases op <;> first | rfl | contradiction
  rw [answer_float_eq_evaluate hop hx]
  simp [Filter.evaluate, Filter.whenPresent, Value.isBlank, hcheck, habsent]

/-- Whatever stands in the relation that an operator asks for satisfies it. -/
theorem answer_float_of_holds {r : Relation} (hr : op.relation? = some r)
    (hx : ¬ (Value.float x).IsFinite)
    (hholds : (Filter.convert .number v).holds? r (.float x) = some true) :
    answer op (.float x) v = .ok true := by
  have hop : op.comparesWhole := by cases op <;> first | rfl | contradiction
  rw [answer_float_eq_evaluate hop hx, Filter.evaluate_relation hr rfl,
    Filter.related_iff.mpr hholds]

/-- Only an operator that compares as a whole is barred by a double. -/
theorem comparesWhole_of_isBarredBy (hop : op.isBarredBy x) : op.comparesWhole := by
  unfold Operator.isBarredBy at hop
  cases op <;> first | rfl | simp at hop

/-- A double that bars an operator is not finite. -/
theorem not_isFinite_of_isBarredBy (hop : op.isBarredBy x) : ¬ (Value.float x).IsFinite := by
  intro hfinite
  obtain ⟨n, hn⟩ := Value.isFinite_float_iff_place?.mp hfinite
  unfold Operator.isBarredBy at hop
  cases op <;> simp [hn] at hop

/-! ### Lists -/

/-- A list that comes back is compared as a whole. -/
theorem answerNulled_list (hop : op.comparesWhole) (items : List Value) (v : Value) :
    answerNulled op (.array items) v
      = Filter.whenPresent (Filter.convert (typeOf (.array items)) v)
          (Filter.compare (Filter.convert (typeOf (.array items)) v) op
            (.array (items.map Value.nulled))) := by
  have hrange : op ≠ .inRange := by rintro rfl; contradiction
  have hlist : op.takesList = false := by cases op <;> first | rfl | contradiction
  have hcheck : op.isNullCheck = false := by cases op <;> first | rfl | contradiction
  rw [answerNulled, Value.nulled_list, Filter.prepareFilterValue_container rfl hlist hrange,
    Filter.evaluate_container rfl hcheck]
  rfl

/-- A list operator takes the items that come back. -/
theorem answerNulled_takesList (hop : op.takesList) (items : List Value) (v : Value) :
    answerNulled op (.array items) v
      = Filter.whenPresent (Filter.convert (typeOf (.array items)) v)
          (Filter.compare (Filter.convert (typeOf (.array items)) v) op
            (.array ((items.map Value.nulled).map (Filter.convert (typeOf (.array items)))))) := by
  have hcheck : op.isNullCheck = false := by cases op <;> first | rfl | contradiction
  rw [answerNulled, Value.nulled_list, Filter.prepareFilterValue_takesList rfl hop,
    Filter.evaluate_container rfl hcheck]
  rfl

/-- A list stands for numbers or for texts. -/
theorem typeOf_list_ne_boolean (items : List Value) : typeOf (.array items) ≠ .boolean := by
  rw [typeOf]
  split <;> decide

theorem answer_freeze_list (hop : op.comparesWhole) (items : List Value) (v : Value) :
    answer op (Value.array items).freeze v
      = Filter.whenPresent (Filter.convert (typeOf (.array items)) v)
          (Filter.compare (Filter.convert (typeOf (.array items)) v) op
            (.array (items.map Value.freeze))) := by
  rw [answer_container hop rfl, typeOf_freeze, plainList_freeze_list]

theorem answer_freeze_list_takesList (hop : op.takesList) (items : List Value) (v : Value) :
    answer op (Value.array items).freeze v
      = Filter.whenPresent (Filter.convert (typeOf (.array items)) v)
          (Filter.compare (Filter.convert (typeOf (.array items)) v) op
            (.array ((items.map Value.freeze).map (Filter.convert (typeOf (.array items)))))) := by
  rw [answer_takesList hop rfl, typeOf_freeze, listItems_freeze_list]

/-! ### Where nothing is told apart -/

/-- What is there is found by a NaN or by null among the items just as little. -/
theorem isAmong_nulled {type : FieldType} (htype : type ≠ .boolean)
    (hitems : ∀ v ∈ items, v.IsFinite ∨ ∃ x : Binary64, v = .float x ∧ x.place? = none)
    (hw : w.isNull = false) : Filter.isAmong w ((items.map Value.nulled).map (Filter.convert type))
      = Filter.isAmong w (items.map (Filter.convert type)) := by
  induction items with
  | nil => rfl
  | cons v rest ih =>
    obtain ⟨hv, hrest⟩ := List.forall_mem_cons.mp hitems
    have hsame : w.strictlyEqual (Filter.convert type v.nulled)
        = w.strictlyEqual (Filter.convert type v) := by
      rcases hv with hfinite | ⟨x, rfl, hx⟩
      · rw [Value.nulled_eq_self hfinite]
      · have hnot : ¬ (Value.float x).IsFinite := by
          rw [Value.isFinite_float_iff_place?, hx]
          simp
        have hnull : w.equal .null = false := by
          cases w <;> first | contradiction | simp [Value.equal, Value.samePlace, Value.place?]
        rw [Value.nulled_float_of_not_isFinite hnot, Filter.convert_float hnot type htype]
        show w.strictlyEqual .null = _
        rw [Value.strictlyEqual, Value.strictlyEqual, hnull, Value.equal_float_of_nan hx, ite_self,
          ite_self]
    exact congrArg₂ (· || ·) hsame (ih hrest)

theorem whenPresent_congr {a b : Result Bool} (h : w.isNull = false → a = b) :
    Filter.whenPresent w a = Filter.whenPresent w b := by
  unfold Filter.whenPresent
  cases hnull : w.isNull with
  | true => rfl
  | false => rw [h hnull]

/-- *Less than* a list does not see a last item that bars it. -/
theorem less_nulled {pre : List Value} (hfree : ∀ v ∈ pre, v.isListFree)
    (hfinite : ∀ v ∈ pre, v.IsFinite) (hx : Operator.lessThan.isBarredBy x) (w : Value) :
    Filter.related .less w (.array ((pre ++ [Value.float x]).map Value.freeze))
      = Filter.related .less w (.array ((pre ++ [Value.float x]).map Value.nulled)) := by
  have hpre : pre.map Value.nulled = pre :=
    (List.map_congr_left fun v hv => Value.nulled_eq_self (hfinite v hv)).trans pre.map_id'
  rw [List.map_append, List.map_append, hpre, List.map_singleton, List.map_singleton,
    Value.nulled_float_of_not_isFinite (not_isFinite_of_isBarredBy hx)]
  have hsame : ∀ xs, Value.itemsHold? .less xs (pre.map Value.freeze ++ [.float x]) = some true
      ↔ Value.itemsHold? .less xs (pre ++ [.null]) = some true :=
    Value.less_freeze_append_iff hfree Value.isLeast_null (Value.isLeast_float hx)
  refine Bool.eq_iff_iff.mpr ?_
  rw [Filter.related_iff, Filter.related_iff]
  cases w with
  | list form xs =>
    rw [Value.holds?, Value.holds?]
    split
    · exact hsame xs
    · exact Iff.rfl
  | _ => exact Iff.rfl

/-- **Where an operator reads its argument frozen and with nulls, no field value is told apart.** -/
theorem answer_freeze_eq_answerNulled {name : String} (hname : Operator.ofStoreName? name = some op)
    (hop : op ≠ .regex) (hargument : argument.IsAnyData) (hfrozen : op.ReadsFrozen argument)
    (hnulled : op.ReadsNulled argument) (v : Value) :
    answer op argument.freeze v = answerNulled op argument v := by
  by_cases hfinite : argument.IsFinite
  · rw [answerNulled_of_isFinite hop (hargument.isJson hfinite) hfinite]
    exact answer_freeze_of_ne_regex hname hop hfrozen v
  replace hnulled := hnulled.resolve_left hfinite
  cases hargument with
  | null | bool | int | str => exact absurd rfl hfinite
  | object => cases op <;> exact hnulled.elim
  | @float x _ =>
    have hbarred : op.isBarredBy x := by cases op <;> exact hnulled
    have hwhole := comparesWhole_of_isBarredBy hbarred
    rw [answerNulled_float hfinite (holdsOfNull_of_ofStoreName? hname)]
    show answer op (.float x) v = _
    rw [answer_float hwhole hfinite, Filter.compare_float hbarred, Filter.whenPresent, ite_self]
  | @list items _ =>
    cases op with
    | lessThan =>
      obtain ⟨pre, x, rfl, hpre, hx⟩ := hnulled
      have hfree := (hfrozen pre (.float x) rfl).1
      rw [answer_freeze_list rfl, answerNulled_list rfl, Filter.compare, Filter.compare,
        less_nulled hfree hpre hx]
    | isIn =>
      have hflat : ∀ v ∈ items, v.isListFree := hfrozen.2
      rw [answer_freeze_list_takesList rfl, answerNulled_takesList rfl,
        compare_takesList_freeze rfl _ hflat]
      refine whenPresent_congr fun hnull => congrArg Except.ok ?_
      exact (isAmong_nulled (typeOf_list_ne_boolean items) hnulled hnull).symm
    | notIn =>
      have hflat : ∀ v ∈ items, v.isListFree := hfrozen.2
      rw [answer_freeze_list_takesList rfl, answerNulled_takesList rfl,
        compare_takesList_freeze rfl _ hflat]
      refine whenPresent_congr fun hnull => congrArg (fun b => Except.ok !b) ?_
      exact (isAmong_nulled (typeOf_list_ne_boolean items) hnulled hnull).symm
    | _ => exact hnulled.elim

end Query

end DocView
