import DocView.Proofs.Filter.Preparation

/-!
# Operators that deny one another

Five operators have another one that denies them: equality, occurrence in the text, membership, and
the two checks for a value that is missing. Where an operator and its denial are evaluated they say
opposite things. But evaluation has rules that come before any comparison. If the field has no value
or the condition gives nothing to compare with, then no comparison is made, and both a comparison
and its denial reject. The checks are no comparisons. For them nothing to compare with counts as a
value that is missing, so one of a check and its denial accepts in every case.

That leaves no third way for a comparison to end. No comparison that has a denial asks for an order,
so there is none that two values could lack, and a list operator always finds a list, since whatever
it is given is made into one beforehand.

A condition that names no field is the exception: it accepts everything, and so does its denial.

## Main definitions

* `Operator.negation?` - the operator that denies an operator

## Main results

* `Filter.evaluate_check`, `Filter.evaluate_comparison` - an operator and its denial, evaluated
* `Condition.accepts_negation`
-/

namespace DocView

/-- The operator that accepts where an operator rejects, if there is one. -/
def Operator.negation? : Operator → Option Operator
  | .equals => some .notEquals
  | .contains => some .notContains
  | .isIn => some .notIn
  | .isNull => some .isNotNull
  | .isEmpty => some .isNotEmpty
  | _ => none

namespace Filter

variable {op op' : Operator} {v filter : Value}

/-! ### Preparation -/

/-- An operator and its denial compare with the same value. -/
theorem prepareFilterValue_negation (h : op.negation? = some op') (type : FieldType) (v : Value) :
    prepareFilterValue type (some op') v = prepareFilterValue type (some op) v := by
  cases op <;> cases h <;> simp [prepareFilterValue, Operator.takesList]

/-! ### Evaluation -/

/-- What a check says. It asks for a value that is missing or empty, or for one that is not, and it
takes nothing to compare with for such a value. -/
theorem evaluate_of_isNullCheck (hop : op.isNullCheck) (v filter : Value) :
    evaluate v (some op) filter
      = .ok ((v.isBlank || filter.isBlank) == op.holdsOfNull) := by
  have hmissing : v.isNull || v.isUnset → v.isBlank := by
    cases v <;> first | exact fun _ => rfl | exact fun hv => nomatch hv
  unfold evaluate
  cases hv : v.isNull || v.isUnset with
  | true => simp [hmissing hv]
  | false => cases hblank : filter.isBlank <;> cases hholds : op.holdsOfNull <;> simp [hop, hholds]

/-- **A check and its denial.** One of them accepts, whatever there is. -/
theorem evaluate_check (h : op.negation? = some op') (hop : op.isNullCheck) (v filter : Value) :
    evaluate v (some op) filter = .ok (v.isBlank || filter.isBlank) ∧
    evaluate v (some op') filter = .ok !(v.isBlank || filter.isBlank) := by
  have hchecks : op'.isNullCheck ∧ op.holdsOfNull = true ∧ op'.holdsOfNull = false := by
    cases op <;> cases h <;> first | exact ⟨rfl, rfl, rfl⟩ | cases hop
  obtain ⟨hop', hholds, hdenied⟩ := hchecks
  rw [evaluate_of_isNullCheck hop, evaluate_of_isNullCheck hop', hholds, hdenied]
  cases v.isBlank || filter.isBlank <;> exact ⟨rfl, rfl⟩

theorem compare_negation (h : op.negation? = some op') (hop : op.isNullCheck = false)
    (v filter : Value) : ∃ kept, compare v op filter = .ok kept ∧ compare v op' filter = .ok !kept := by
  cases op with
  | equals | contains =>
    cases h
    exact ⟨_, rfl, rfl⟩
  | isIn =>
    cases h
    cases filter with
    | list form items => exact ⟨_, rfl, rfl⟩
    | _ => exact ⟨false, rfl, rfl⟩
  | isNull | isEmpty => cases hop
  | _ => cases h

/-- Whether there are two values to be compared. -/
def bothPresent (v filter : Value) : Bool := !(v.isNull || v.isUnset || filter.isBlank)

/-- **A comparison and its denial.** They say opposite things of two values, and both reject if one
of the two is not there. -/
theorem evaluate_comparison (h : op.negation? = some op') (hop : op.isNullCheck = false)
    (v filter : Value) : ∃ kept,
      evaluate v (some op) filter = .ok (bothPresent v filter && kept) ∧
      evaluate v (some op') filter = .ok (bothPresent v filter && !kept) := by
  obtain ⟨kept, hkept, hdenied⟩ := compare_negation h hop v filter
  have hop' : op'.isNullCheck = false := by
    cases op <;> cases h <;> first | rfl | cases hop
  have habsent : ∀ {o : Operator}, o.isNullCheck = false → o.holdsOfNull = false := by
    intro o ho
    cases o <;> first | rfl | cases ho
  refine ⟨kept, ?_, ?_⟩
  · unfold evaluate bothPresent
    cases v.isNull || v.isUnset || filter.isBlank <;> simp [hop, habsent hop, hkept]
  · unfold evaluate bothPresent
    cases v.isNull || v.isUnset || filter.isBlank <;> simp [hop', habsent hop', hdenied]

end Filter

namespace Condition

/-- **Operators that deny one another.** Let two conditions have the same field, value and type, and
operators of which one denies the other, however they are spelled. If the operators are checks, then
the first accepts a document whose field is missing or empty, or every document if there is nothing
to compare with, and the second accepts the others. If they are comparisons, then both reject a
document without a value to compare, or all if there is nothing to compare with, and of every other
document they say opposite things. In no case does one of them fail. -/
theorem accepts_negation {name : String} (hname : name ≠ "") {v : Value} (hv : v.isUnset = false)
    (type : FieldType) (document : Value) {op op' : Operator} (h : op.negation? = some op')
    {spelling spelling' : Value} (hop : Operator.ofValue? spelling = some op)
    (hop' : Operator.ofValue? spelling' = some op') :
    let x := Filter.prepareFieldValue type (Document.namedField document name)
    (op.isNullCheck →
      accepts ⟨.str name, spelling, v, type⟩ document = .ok (x.isBlank || v.isBlank) ∧
      accepts ⟨.str name, spelling', v, type⟩ document = .ok !(x.isBlank || v.isBlank)) ∧
    (op.isNullCheck = false → ∃ kept,
      accepts ⟨.str name, spelling, v, type⟩ document = .ok (Filter.bothPresent x v && kept) ∧
      accepts ⟨.str name, spelling', v, type⟩ document
        = .ok (Filter.bothPresent x v && !kept)) := by
  intro x
  let filter := Filter.prepareFilterValue type (some op) v
  have hfield : (Value.str name).truthy = true := bne_iff_ne.mpr hname
  have haccepts : accepts ⟨.str name, spelling, v, type⟩ document
      = Filter.evaluate x (some op) filter := by
    rw [accepts_eq_evaluate hfield hv rfl]
    simp only [operator?, hop]
    rfl
  have haccepts' : accepts ⟨.str name, spelling', v, type⟩ document
      = Filter.evaluate x (some op') filter := by
    rw [accepts_eq_evaluate hfield hv rfl]
    simp only [operator?, hop', Filter.prepareFilterValue_negation h]
    rfl
  have hfilter : filter.isBlank = v.isBlank := Filter.isBlank_prepareFilterValue type (some op) v
  have hpresent : Filter.bothPresent x filter = Filter.bothPresent x v := by
    rw [Filter.bothPresent, Filter.bothPresent, hfilter]
  rw [haccepts, haccepts', ← hfilter, ← hpresent]
  exact ⟨fun hcheck => Filter.evaluate_check h hcheck x filter,
    fun hcomparison => Filter.evaluate_comparison h hcomparison x filter⟩

/-- Membership in a list that was typed, with a number in the field; and a check of a field that is
not there, with nothing to compare with. -/
theorem accepts_negation_sizes :
    (∃ kept,
      accepts ⟨.str "size", .str "$in", .str "4, x", .number⟩ (.record [("size", .str " 5 ")])
        = .ok kept ∧
      accepts ⟨.str "size", .str "notIn", .str "4, x", .number⟩ (.record [("size", .str " 5 ")])
        = .ok !kept) ∧
    accepts ⟨.str "size.x", .str "isNull", .str "", .date⟩ (.record [("size", .int 5)])
      = .ok true ∧
    accepts ⟨.str "size.x", .str "isNotNull", .str "", .date⟩ (.record [("size", .int 5)])
      = .ok false := by
  have hin : Operator.ofValue? (.str "$in") = some .isIn := by decide +kernel
  have hnotIn : Operator.ofValue? (.str "notIn") = some .notIn := by decide +kernel
  have hnull : Operator.ofValue? (.str "isNull") = some .isNull := by decide +kernel
  have hnotNull : Operator.ofValue? (.str "isNotNull") = some .isNotNull := by decide +kernel
  have hboth : Filter.bothPresent (Filter.prepareFieldValue .number
      (Document.namedField (.record [("size", .str " 5 ")]) "size")) (.str "4, x") = true := by
    decide +kernel
  have hsize : "size" ≠ "" := by decide
  have hpath : "size.x" ≠ "" := by decide
  have hmembership := (accepts_negation hsize (v := .str "4, x") rfl .number
    (.record [("size", .str " 5 ")]) rfl hin hnotIn).2 rfl
  rw [hboth] at hmembership
  exact ⟨hmembership, (accepts_negation hpath (v := .str "") rfl .date
    (.record [("size", .int 5)]) rfl hnull hnotNull).1 rfl⟩

/-- A test for equality that names no field accepts a document that has nothing to compare. -/
theorem not_accepts_negation_emptyName :
    ¬ ∀ (name : String) (v : Value) (type : FieldType) (document : Value), v.isUnset = false →
      (Filter.prepareFieldValue type (Document.namedField document name)).isNull →
      accepts ⟨.str name, .str "equals", v, type⟩ document = .ok false := by
  intro h
  cases h "" (.int 1) .string (.record []) rfl rfl

end Condition

end DocView
