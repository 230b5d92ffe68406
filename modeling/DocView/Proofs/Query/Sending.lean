import DocView.Proofs.Query.NullDistinction
import DocView.Proofs.Query.Thawing

/-!
# Conditions that are sent and come back

The conditions that a query stands for may be sent to a client, who sends them back to have
documents filtered. Three things happen to their values on the way. A value that is null is left
out, and a condition without a value constrains nothing, while one with a null value rejects
everything. A number that JSON does not have is sent as null, and comes back as a value that is
null, which was not left out. And lists that were read-only come back as plain ones, at every depth.

So a condition *survives sending* if it is on no field, or has a value, not null, that its operator
reads the same frozen and with nulls. Again that is exactly what it takes.

## Main definitions

* `Condition.returned`, `Condition.SurvivesSending`
* `Query.FromFrozen` - the conditions that frozen selectors of data stand for
* `Query.Flips` - a condition that says the opposite of some document when it comes back

## Main results

* `Query.FromFrozen.alike_returned`, `Query.FromFrozen.flips`
-/

namespace DocView

namespace Condition

variable {c : Condition}

/-- The condition that comes back: without a value that is null, and otherwise with null for numbers
that JSON does not have, and with plain lists only. -/
def returned (c : Condition) : Condition :=
  { c with value := if c.value.isNull then .unset else c.value.thaw.nulled }

/-- Whether the condition says the same when it comes back. -/
def SurvivesSending (c : Condition) : Prop :=
  c.field.truthy → c.value.isNull = false ∧
    ∀ op, c.operator? = some op → op.ReadsFrozen c.value.thaw ∧ op.ReadsNulled c.value.thaw

theorem IsNamed.returned (hc : c.IsNamed) : c.returned.IsNamed := hc

/-- A null that comes back is no value at all. -/
theorem isVacuous_returned (hnull : c.value.isNull) : c.returned.isVacuous := by
  rw [isVacuous, returned, hnull]
  exact Bool.or_true _

end Condition

namespace Query

variable {field : String} {op : Operator} {argument v : Value} {selector : Members}
  {c : Condition}

/-! ### The conditions of a frozen selector -/

/-- The conditions that frozen selectors of data stand for. -/
abbrev FromFrozen (c : Condition) : Prop := FromArgument Value.IsAnyData c

theorem fromFrozen_of_mem (hdata : (Value.record selector).IsAnyData)
    (hc : c ∈ conditionsOf (Value.withFormMembers .frozen selector)) : FromFrozen c := by
  refine fromArgument_of_mem (fun form members hgiven entry hentry => ?_) hdata hc
  cases hgiven with
  | object _ data => exact data entry hentry

/-- The condition of an operator that comes back has the argument with nulls and the type that it
had. -/
theorem returned_operatorCondition (field : String) (hop : op ≠ .regex)
    (hargument : argument.IsAnyData) (hnull : argument.isNull = false) :
    (operatorCondition field op argument.freeze).returned
      = condition field op argument.nulled (typeOf argument) := by
  have hvalue := value_operatorCondition field hop argument.freeze
  have hpresent : (plainList argument.freeze).isNull = false := by
    rw [isNull_plainList, Value.freeze, Value.isNull_withForm, hnull]
  have hthaw : (plainList argument.freeze).thaw = argument := by
    rw [thaw_plainList, hargument.thaw_freeze]
  rw [Condition.returned, hvalue, hpresent, if_neg Bool.false_ne_true, hthaw, operatorCondition,
    if_neg hop, typeOf_plainList, typeOf_freeze]
  rfl

/-- What it says of a document is what the operator answers with nulls. -/
theorem accepts_returned (hfield : field ≠ "") (hop : op ≠ .regex)
    (hargument : argument.IsAnyData) (hnull : argument.isNull = false) (document : Value) :
    (operatorCondition field op argument.freeze).returned.accepts document
      = answerNulled op argument (Document.namedField document field) := by
  have hset : argument.nulled.isUnset = false := isUnset_of_isJson (Value.isJson_nulled hargument)
  rw [returned_operatorCondition field hop hargument hnull, accepts_condition hfield hset]
  rfl

/-! ### What survives -/

/-- A finite value that is no list, no object and not null can be sent. -/
theorem survivesSending_of_scalar (hscalar : c.value.isContainer = false)
    (hnull : c.value.isNull = false) (hfinite : c.value.IsFinite) : c.SurvivesSending := by
  intro _
  have hthaw : c.value.thaw = c.value := Value.withForm_of_scalar hscalar
  rw [hthaw]
  exact ⟨hnull, fun op _ => ⟨readsFrozen_of_scalar hscalar, .inl hfinite⟩⟩

/-- The condition of an operator on a field survives if the argument is there and may be frozen and
come back with nulls. -/
theorem survivesSending_iff (hfield : field ≠ "") (hop : op ≠ .regex)
    (hargument : argument.IsAnyData) :
    (operatorCondition field op argument.freeze).SurvivesSending
      ↔ argument.isNull = false ∧ op.ReadsFrozen argument ∧ op.ReadsNulled argument := by
  rw [Condition.SurvivesSending, truthy_field_operatorCondition, value_operatorCondition field hop,
    thaw_plainList, hargument.thaw_freeze, operator?_operatorCondition, isNull_plainList,
    Value.freeze, Value.isNull_withForm]
  simp [hfield]

/-- On no field a condition is vacuous whatever its value. -/
theorem accepts_operatorCondition_returned_empty (op : Operator) (argument document : Value) :
    (operatorCondition "" op argument).returned.accepts document = .ok true := by
  unfold operatorCondition
  split <;> rfl

/-- **A condition that survives sending says the same when it comes back.** -/
theorem FromFrozen.alike_returned (h : FromFrozen c) (hsurvives : c.SurvivesSending) :
    c.Alike c.returned := by
  refine ⟨h.isNamed.isKnown, h.isNamed.isKnown, fun document => ?_⟩
  cases h with
  | presence => rfl
  | @operator field name op argument known given =>
    by_cases hfield : field = ""
    · subst hfield
      rw [accepts_operatorCondition_empty, accepts_operatorCondition_returned_empty]
    by_cases hop : op = .regex
    -- A pattern is text and comes back as it is.
    · subst hop
      rfl
    obtain ⟨hnull, hfrozen, hnulled⟩ := (survivesSending_iff hfield hop given).mp hsurvives
    have hset : argument.freeze.isUnset = false :=
      (Value.isUnset_withForm .frozen argument).trans given.isUnset_eq_false
    rw [accepts_operatorCondition hfield hset, accepts_returned hfield hop given hnull]
    exact answer_freeze_eq_answerNulled known hop given hfrozen hnulled _

/-! ### What does not survive -/

/-- The condition says the opposite of a document of JSON when it comes back. -/
def Flips (c : Condition) : Prop :=
  ∃ (document : Value) (kept : Bool), document.isJson ∧
    c.accepts document = .ok kept ∧ c.returned.accepts document = .ok !kept

/-- Nothing compares with null. -/
theorem answer_null {name : String} (hname : Operator.ofStoreName? name = some op)
    (hop : op ≠ .regex) (v : Value) : answer op .null v = .ok false := by
  rw [answer, operatorCondition, if_neg hop]
  show Filter.evaluate _ (some op) .null = _
  simp [Filter.evaluate, Value.isBlank, holdsOfNull_of_ofStoreName? hname]

/-- A comparison with null rejects what the condition accepts that comes back without a value. -/
theorem flips_null {name : String} (hname : Operator.ofStoreName? name = some op)
    (hop : op ≠ .regex) (hfield : field ≠ "") :
    Flips (operatorCondition field op Value.null.freeze) := by
  have hnull : (operatorCondition field op Value.null.freeze).value.isNull := by
    rw [value_operatorCondition field hop]
    rfl
  refine ⟨documentWith field .null, false, isJson_documentWith field rfl, ?_,
    Condition.accepts_of_isVacuous (Condition.isVacuous_returned hnull) _⟩
  rw [accepts_operatorCondition hfield rfl]
  exact answer_null hname hop _

/-- **A condition that does not survive sending says the opposite of some document**, if there is no
object in its value; a value with objects is not sent. -/
theorem FromFrozen.flips (h : FromFrozen c) (hobject : c.value.hasObject = false)
    (hsurvives : ¬ c.SurvivesSending) : Flips c := by
  cases h with
  | presence =>
    have htrue : (Value.bool true).IsFinite := rfl
    exact absurd (survivesSending_of_scalar rfl rfl htrue) hsurvives
  | @operator field name op argument known given =>
    have hop : op ≠ .regex := by
      rintro rfl
      exact hsurvives (survivesSending_of_scalar rfl rfl (Value.isFinite_str _))
    have hfield : field ≠ "" := by
      rintro rfl
      refine hsurvives fun htruthy => ?_
      rw [truthy_field_operatorCondition] at htruthy
      contradiction
    cases hnull : argument.isNull with
    | true =>
      cases argument with
      | null => exact flips_null known hop hfield
      | _ => contradiction
    | false =>
      have hreads : ¬ (op.ReadsFrozen argument ∧ op.ReadsNulled argument) := fun hreads =>
        hsurvives ((survivesSending_iff hfield hop given).mpr ⟨hnull, hreads⟩)
      have hplain : argument.hasObject = false := by
        rw [value_operatorCondition field hop, hasObject_plainList, Value.freeze,
          Value.hasObject_withForm] at hobject
        exact hobject
      -- Where the operator reads the argument differently, a field value shows it.
      obtain ⟨v, hv, hne⟩ := exists_answer_freeze_ne_answerNulled known hop given hplain hreads
      have hset : argument.freeze.isUnset = false :=
        (Value.isUnset_withForm .frozen argument).trans given.isUnset_eq_false
      obtain ⟨kept, hkept⟩ := exists_answer hop argument.freeze v
      obtain ⟨kept', hkept'⟩ : ∃ kept', answerNulled op argument v = .ok kept' :=
        Filter.exists_evaluate hop _ _
      have hopposite : kept' = !kept :=
        Bool.eq_not_of_ne fun hsame => hne (by rw [hkept, hkept', hsame])
      refine ⟨documentWith field v, kept, isJson_documentWith field hv, ?_, ?_⟩
      · rw [accepts_operatorCondition hfield hset, namedField_documentWith, hkept]
      · rw [accepts_returned hfield hop given hnull, namedField_documentWith, hkept', hopposite]

end Query

end DocView
