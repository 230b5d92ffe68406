import DocView.Proofs.Filter.Answers
import DocView.Proofs.Filter.Complement
import DocView.Proofs.Query.Sending

/-!
# Two spellings of equality

A selector can ask in two ways for a field that is equal to a value: it gives the value itself, or an
object that has it under `$eq`. The two are read by different branches, which agree on everything but
null. A null that is given itself is no test of equality but asks for a field that is null, and the
other branch makes no such exception. What it makes is a comparison with null, and nothing compares
with null, not even null.

So the two spellings select the same if and only if the value is not null; a field without a name is
the exception, since it constrains nothing whatever is asked of it. In the remaining case they never
select the same document.

## Main definitions

* `Query.selection` - the documents that a selector selects

## Main results

* `Query.selection_null`, `Query.selection_operator_null` - what the two spellings of null select
* `Query.selection_literal_iff` - when the two spellings select the same
-/

namespace DocView.Query

variable {field : String} {v : Value}

/-- The documents that the conditions of a selector select. -/
def selection (selector : Members) (logic : Logic) (documents : Value) : Result (List Value) :=
  (FilterSet.apply ⟨conditionsOf selector, logic⟩ documents).map Prod.fst

theorem conditionsOf_equals (hfield : ¬ Text.startsWith field "$") (form : Form) (v : Value) :
    conditionsOf [(field, .object form [("$eq", v)])] = [operatorCondition field .equals v] :=
  conditionsOf_operator hfield rfl form v

/-! ### Values that are not null -/

theorem conditionsOf_literal (hfield : ¬ Text.startsWith field "$") (hobject : v.isObject = false)
    (hnull : v.isNull = false) (form : Form) :
    conditionsOf [(field, v)] = conditionsOf [(field, .object form [("$eq", v)])] := by
  rw [conditionsOf_equals hfield, conditionsOf_singleton,
    memberConditions_literal hfield hnull hobject]

/-! ### Null -/

/-- A null that is given itself asks for a field that is null, or empty. -/
theorem accepts_nullCondition (hfield : field ≠ "") (document : Value) :
    (condition field .isNull (.bool true) .string).accepts document
      = .ok (Document.namedField document field).isBlank := by
  have hgiven : Filter.prepareFilterValue .string (some .isNull) (.bool true) = .bool true := rfl
  rw [accepts_condition hfield rfl, hgiven, Filter.evaluate_of_isNullCheck rfl,
    Filter.prepareFieldValue, Filter.isBlank_convert]
  cases (Document.namedField document field).isBlank <;> rfl

theorem selection_null (hdollar : ¬ Text.startsWith field "$") (hfield : field ≠ "")
    (logic : Logic) (documents : List Value) :
    selection [(field, .null)] logic (.array documents)
      = .ok (documents.filter fun d => (Document.namedField d field).isBlank) := by
  rw [selection, conditionsOf_singleton, memberConditions_null hdollar]
  exact FilterSet.apply_singleton_eq_filter rfl (fun d _ => accepts_nullCondition hfield d) logic

/-- Nothing is equal to null. -/
theorem selection_operator_null (hdollar : ¬ Text.startsWith field "$") (hfield : field ≠ "")
    (form : Form) (logic : Logic) (documents : List Value) :
    selection [(field, .object form [("$eq", .null)])] logic (.array documents) = .ok [] := by
  have hname : Operator.ofStoreName? "$eq" = some .equals := rfl
  have haccepts : ∀ d ∈ documents, (operatorCondition field .equals .null).accepts d = .ok false := by
    intro d _
    rw [accepts_operatorCondition hfield rfl]
    exact answer_null hname (by decide) _
  rw [selection, conditionsOf_equals hdollar,
    FilterSet.apply_singleton_eq_filter (isKnown_operatorCondition field .equals .null) haccepts]
  simp

/-- On no field the two are alike. -/
theorem selection_null_emptyField (form : Form) (logic : Logic) (documents : Value) :
    selection [("", .null)] logic documents
      = selection [("", .object form [("$eq", .null)])] logic documents := by
  have halike : (condition "" .isNull (.bool true) .string).Alike
      (operatorCondition "" .equals .null) :=
    ⟨rfl, rfl, fun d => (accepts_operatorCondition_empty .equals .null d).symm ▸ rfl⟩
  exact congrArg (Except.map Prod.fst) (FilterSet.apply_congr (.cons halike .nil) logic documents)

/-! ### When the spellings agree -/

theorem eq_null_of_isNull (h : v.isNull) : v = .null := by
  cases v <;> first | rfl | cases h

/-- **The two spellings of equality.** Let a field have a name that does not start with a dollar
sign, and let a value be given that is no object. The selector that gives the value itself and the
one that gives it under `$eq` select the same documents of every collection, under either logic, if
and only if the value is not null or the name is empty. Where it is null and the name is not empty,
the first selects the documents whose field is null, missing or empty, and the second selects
none. -/
theorem selection_literal_iff (hdollar : ¬ Text.startsWith field "$") (hobject : v.isObject = false)
    (form : Form) :
    ((∀ logic documents, selection [(field, v)] logic documents
        = selection [(field, .object form [("$eq", v)])] logic documents)
      ↔ v.isNull = false ∨ field = "") ∧
    (v.isNull → field ≠ "" → ∀ logic documents,
      selection [(field, v)] logic (.array documents)
        = .ok (documents.filter fun d => (Document.namedField d field).isBlank) ∧
      selection [(field, .object form [("$eq", v)])] logic (.array documents) = .ok []) := by
  have hnull : v.isNull → field ≠ "" → ∀ logic documents,
      selection [(field, v)] logic (.array documents)
        = .ok (documents.filter fun d => (Document.namedField d field).isBlank) ∧
      selection [(field, .object form [("$eq", v)])] logic (.array documents) = .ok [] := by
    intro hisNull hfield logic documents
    obtain rfl := eq_null_of_isNull hisNull
    exact ⟨selection_null hdollar hfield logic documents,
      selection_operator_null hdollar hfield form logic documents⟩
  refine ⟨⟨fun hsame => ?_, fun hagrees logic documents => ?_⟩, hnull⟩
  · by_contra hdiffer
    obtain ⟨hisNull, hfield⟩ := not_or.mp hdiffer
    -- The document that has null in the field is selected by the one and not by the other.
    obtain ⟨hliteral, hoperator⟩ :=
      hnull (Bool.eq_true_of_not_eq_false hisNull) hfield .and [documentWith field .null]
    have hboth := hliteral.symm.trans ((hsame .and _).trans hoperator)
    rw [List.filter_singleton, namedField_documentWith] at hboth
    cases hboth
  · cases hisNull : v.isNull with
    | false =>
      rw [selection, conditionsOf_literal hdollar hobject hisNull form]
      rfl
    | true =>
      obtain rfl := eq_null_of_isNull hisNull
      obtain rfl : field = "" := hagrees.resolve_left (by decide)
      exact selection_null_emptyField form logic documents

/-- A list that holds a null, and null itself. -/
theorem selection_literal_iff_nulls :
    (∀ logic documents, selection [("a", .array [.null])] logic documents
      = selection [("a", .record [("$eq", .array [.null])])] logic documents) ∧
    selection [("a", .null)] .and (.array [.record [("a", .str "")], .null, .record [("a", .int 0)]])
      = .ok [.record [("a", .str "")], .null] ∧
    selection [("a", .record [("$eq", .null)])] .and
      (.array [.record [("a", .str "")], .null, .record [("a", .int 0)]]) = .ok [] := by
  have hdollar : ¬ Text.startsWith "a" "$" := by decide
  have hname : "a" ≠ "" := by decide
  refine ⟨(selection_literal_iff hdollar rfl .plain).1.mpr (.inl rfl), ?_⟩
  exact (selection_literal_iff hdollar rfl .plain).2 rfl hname .and _

/-- A document with a null in its field is selected by the null and not by null under `$eq`. -/
theorem not_selection_literal_null :
    ¬ ∀ (field : String) (v : Value), ¬ Text.startsWith field "$" → v.isObject = false →
      ∀ documents, selection [(field, v)] .and (.array documents)
        = selection [(field, .record [("$eq", v)])] .and (.array documents) := by
  intro h
  cases h "a" .null (by decide) rfl [.record [("a", .null)]]

end DocView.Query
