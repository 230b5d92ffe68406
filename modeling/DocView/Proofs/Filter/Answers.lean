import DocView.Proofs.Filter.Container
import DocView.Proofs.Filter.Warnings
import DocView.Proofs.Sorting.Selection

/-!
# Filtering answers

A condition is typed in by somebody, and the documents come from anywhere. Whatever is wrong with
either, filtering is meant to answer. A field that is a name is looked up by recursion on the
document and is null where there is nothing; what does not convert is left as it is; and values that
cannot be compared do not match. Three things are left that can fail: a field that is no name, a
pattern with a repeat count that is too large, and unknown operators that cannot be listed. A
condition is *textual* if it has none of them: a text for its field, and a text for its operator
that does not stand for a pattern. Nothing is asked of its value and its type.

Conditions that answer one by one answer together, and then a filter set is no more than the
conjunction or the disjunction of what they say.

## Main definitions

* `Condition.keeps` - what a condition that answers says of a document
* `Condition.IsTextual`, `Condition.IsTextualForm` - conditions that answer, and their object forms

## Main results

* `FilterSet.passes_and`, `FilterSet.passes_or` - conditions that answer, together
* `Condition.exists_accepts`, `Condition.exists_ofValue`
* `FilterSet.apply_of_isTextual` - filtering by textual conditions answers
-/

namespace DocView

namespace Condition

variable {c : Condition} {document : Value}

/-- Whether a condition accepts a document; one that fails on it does not. -/
def keeps (c : Condition) (document : Value) : Bool :=
  match c.accepts document with
  | .ok kept => kept
  | .error _ => false

theorem accepts_eq_keeps (h : ∃ kept, c.accepts document = .ok kept) :
    c.accepts document = .ok (c.keeps document) := by
  obtain ⟨kept, hkept⟩ := h
  rw [keeps, hkept]

theorem keeps_of_isVacuous (h : c.isVacuous) (document : Value) : c.keeps document = true := by
  rw [keeps, accepts_of_isVacuous h]

end Condition

namespace FilterSet

variable {conditions : List Condition} {document : Value} {documents : List Value}

/-! ### Conditions that answer, together -/

theorem passesAll_eq_all (h : ∀ c ∈ conditions, ∃ kept, c.accepts document = .ok kept) :
    passesAll document conditions = .ok (conditions.all (·.keeps document)) := by
  induction conditions with
  | nil => rfl
  | cons c rest ih =>
    obtain ⟨hc, hrest⟩ := List.forall_mem_cons.mp h
    rw [passesAll, Condition.accepts_eq_keeps hc, ih hrest, List.all_cons]
    cases c.keeps document <;> rfl

theorem passesAny_eq_any (h : ∀ c ∈ conditions, ∃ kept, c.accepts document = .ok kept) :
    passesAny document conditions = .ok (conditions.any (·.keeps document)) := by
  induction conditions with
  | nil => rfl
  | cons c rest ih =>
    obtain ⟨hc, hrest⟩ := List.forall_mem_cons.mp h
    rw [passesAny, Condition.accepts_eq_keeps hc, ih hrest, List.any_cons]
    cases c.keeps document <;> rfl

/-- A conjunction of conditions that answer. -/
theorem passes_and (h : ∀ c ∈ conditions, ∃ kept, c.accepts document = .ok kept) :
    passes ⟨conditions, .and⟩ document = .ok (conditions.all (·.keeps document)) := by
  cases conditions with
  | nil => rfl
  | cons c rest => exact passesAll_eq_all h

/-- A disjunction of conditions that answer. That of no conditions accepts everything too. -/
theorem passes_or (h : ∀ c ∈ conditions, ∃ kept, c.accepts document = .ok kept) :
    passes ⟨conditions, .or⟩ document
      = .ok (conditions.isEmpty || conditions.any (·.keeps document)) := by
  cases conditions with
  | nil => rfl
  | cons c rest => exact passesAny_eq_any h

/-- A filter set answers if its conditions do. -/
theorem answers_of_conditions
    (h : ∀ c ∈ conditions, ∀ d ∈ documents, ∃ kept, c.accepts d = .ok kept) (logic : Logic) :
    Answers ⟨conditions, logic⟩ documents := by
  intro d hd
  have hd : ∀ c ∈ conditions, ∃ kept, c.accepts d = .ok kept := fun c hc => h c hc d hd
  cases logic with
  | and => exact ⟨_, passes_and hd⟩
  | or => exact ⟨_, passes_or hd⟩

/-- A single condition selects what it accepts. -/
theorem apply_singleton_eq_filter {c : Condition} (hknown : c.isKnown) {p : Value → Bool}
    (h : ∀ d ∈ documents, c.accepts d = .ok (p d)) (logic : Logic) :
    (apply ⟨[c], logic⟩ (.array documents)).map Prod.fst = .ok (documents.filter p) := by
  have hpasses : ∀ d ∈ documents, passes ⟨[c], logic⟩ d = .ok (p d) :=
    fun d hd => (passes_singleton c logic d).trans (h d hd)
  have hfilter : documents.filter (keeps ⟨[c], logic⟩) = documents.filter p :=
    List.filter_congr fun d hd => by rw [keeps, hpasses d hd]
  have hwarnings : warnings ⟨[c], logic⟩ = .ok [] :=
    warnings_eq_nil (List.forall_mem_singleton.mpr hknown)
  rw [apply_eq fun d hd => ⟨_, hpasses d hd⟩, hwarnings, hfilter]
  rfl

end FilterSet

/-! ### Textual conditions -/

namespace Condition

variable {c : Condition}

/-- A condition whose field and operator are texts, and whose operator, if it is known, is not that
of patterns. -/
structure IsTextual (c : Condition) : Prop where
  /-- The field is a text, possibly the empty one. -/
  field : c.field.isText
  /-- The operator is a text, known or not. -/
  operator : c.operator.isText
  /-- The operator does not ask for a pattern. -/
  noPattern : c.operator? ≠ some .regex

/-- An object whose field and operator are texts or missing, and whose operator, if it is known, is
not that of patterns. -/
structure IsTextualForm (members : Members) : Prop where
  /-- The field is a text or missing. -/
  field : (Value.member members "field").isText ∨ (Value.member members "field").isNull
  /-- The operator is a text or missing. -/
  operator : (Value.member members "operator").isText ∨ (Value.member members "operator").isNull
  /-- The operator does not ask for a pattern. -/
  noPattern : Operator.ofValue? (Value.member members "operator") ≠ some .regex

/-- **A condition on a name answers** for every document, unless it asks for a pattern. -/
theorem exists_accepts (hfield : c.field.isText) (hpattern : c.operator? ≠ some .regex)
    (document : Value) : ∃ kept, c.accepts document = .ok kept := by
  unfold accepts
  split
  · exact ⟨true, rfl⟩
  · cases hname : c.field with
    | str name =>
      cases hop : c.operator? with
      | none =>
        -- An unknown operator asks only whether there is something to compare.
        show ∃ kept, Filter.evaluate _ none _ = .ok kept
        unfold Filter.evaluate
        dsimp only
        split <;> exact ⟨_, rfl⟩
      | some op => exact Filter.exists_evaluate (fun hregex => hpattern (hregex ▸ hop)) _ _
    | _ =>
      rw [hname] at hfield
      cases hfield

/-- A text, or the default if it is missing or empty. -/
theorem isText_orElse {v : Value} (hv : v.isText ∨ v.isNull) (default : String) :
    (v.orElse (.str default)).isText ∧
      (v.orElse (.str default) = v ∨ v.orElse (.str default) = .str default) := by
  unfold Value.orElse
  split
  next htruthy =>
    refine ⟨hv.resolve_right fun hnull => ?_, .inl rfl⟩
    cases v with
    | null => cases htruthy
    | _ => cases hnull
  next => exact ⟨rfl, .inr rfl⟩

/-- The object form of a textual condition can be read. -/
theorem exists_ofValue {members : Members} (h : IsTextualForm members) (form : Form) :
    ∃ c, ofValue (.object form members) = .ok c ∧ c.IsTextual := by
  obtain ⟨hfield, -⟩ := isText_orElse h.field ""
  obtain ⟨hoperator, hcases⟩ := isText_orElse h.operator Operator.equals.name
  refine ⟨_, rfl, hfield, hoperator, ?_⟩
  show Operator.ofValue? ((Value.member members "operator").orElse _) ≠ _
  rcases hcases with hgiven | hdefault
  · rw [hgiven]
    exact h.noPattern
  · rw [hdefault]
    decide +kernel

end Condition

/-! ### Filtering -/

namespace FilterSet

variable {conditions : List Condition} {forms : List Value}

/-- Unknown operators that are texts can be listed. -/
theorem areListable_of_isText (h : ∀ c ∈ conditions, c.operator.isText) (logic : Logic) :
    Value.AreListable (unknownOperators ⟨conditions, logic⟩) := by
  refine Value.AreListable.of_isText fun v hv => ?_
  obtain ⟨c, hc, rfl⟩ := List.mem_map.mp hv
  exact h c (List.mem_of_mem_filter hc)

theorem exists_apply (h : ∀ c ∈ conditions, c.IsTextual) (logic : Logic) (form : Form)
    (documents : List Value) : ∃ lines, apply ⟨conditions, logic⟩ (.list form documents)
      = .ok (documents.filter (keeps ⟨conditions, logic⟩), lines) := by
  have hanswers : Answers ⟨conditions, logic⟩ documents := answers_of_conditions
    (fun c hc d _ => Condition.exists_accepts (h c hc).field (h c hc).noPattern d) logic
  have happly : apply ⟨conditions, logic⟩ (.list form documents)
      = apply ⟨conditions, logic⟩ (.array documents) := rfl
  obtain ⟨lines, hlines⟩ := exists_warnings_iff.mpr
    (areListable_of_isText (fun c hc => (h c hc).operator) logic)
  rw [happly, apply_eq hanswers, hlines]
  split <;> exact ⟨_, rfl⟩

/-- Object forms of textual conditions make a filter set of textual conditions. -/
theorem exists_ofConditions
    (h : ∀ v ∈ forms, ∃ form members, v = .object form members ∧ Condition.IsTextualForm members)
    (form : Form) (logic : Value) : ∃ conditions : List Condition,
      ofConditions (.list form forms) logic = .ok ⟨conditions, .ofValue logic⟩ ∧
      conditions.length = forms.length ∧ ∀ c ∈ conditions, c.IsTextual := by
  have hread : ∃ conditions, forms.mapM Condition.ofValue = .ok conditions ∧
      conditions.length = forms.length ∧ ∀ c ∈ conditions, c.IsTextual := by
    induction forms with
    | nil => exact ⟨[], rfl, rfl, List.forall_mem_nil _⟩
    | cons v rest ih =>
      obtain ⟨⟨_, _, rfl, hv⟩, hrest⟩ := List.forall_mem_cons.mp h
      obtain ⟨c, hc, htextual⟩ := Condition.exists_ofValue hv _
      obtain ⟨others, hothers, hlength, hall⟩ := ih hrest
      refine ⟨c :: others, ?_, congrArg (· + 1) hlength, List.forall_mem_cons.mpr ⟨htextual, hall⟩⟩
      rw [List.mapM_cons, hc, hothers]
      rfl
  obtain ⟨conditions, hconditions, hlength, htextual⟩ := hread
  refine ⟨conditions, ?_, hlength, htextual⟩
  have helements : ((Value.list form forms).orElse (.array [])).elements? = .ok forms := by
    cases forms <;> rfl
  rw [ofConditions, helements]
  refine bind_eq_ok.mpr ⟨forms, rfl, bind_eq_ok.mpr ⟨conditions, hconditions, rfl⟩⟩

/-- **Filtering by textual conditions answers.** Let conditions be given, or the object forms of
conditions, that have texts for their fields and operators, none of them a pattern; in an object
form field and operator may be missing. Then the object forms can be read. Every condition answers
for every document, and the set of conditions answers for every collection, under either logic, with
the documents that pass in their order. The values and types of the conditions may be any, and so may
the documents. -/
theorem apply_of_isTextual (h : ∀ c ∈ conditions, c.IsTextual)
    (hforms : ∀ v ∈ forms, ∃ form members, v = .object form members ∧
      Condition.IsTextualForm members) :
    (∀ c ∈ conditions, ∀ document, ∃ kept, c.accepts document = .ok kept) ∧
    (∀ logic form documents, ∃ lines, apply ⟨conditions, logic⟩ (.list form documents)
      = .ok (documents.filter (keeps ⟨conditions, logic⟩), lines)) ∧
    ∀ form logic, ∃ f, ofConditions (.list form forms) logic = .ok f ∧
      f.conditions.length = forms.length ∧
      (∀ c ∈ f.conditions, ∀ document, ∃ kept, c.accepts document = .ok kept) ∧
      ∀ form documents, ∃ lines,
        f.apply (.list form documents) = .ok (documents.filter f.keeps, lines) := by
  have haccepts : ∀ {conditions : List Condition}, (∀ c ∈ conditions, c.IsTextual) →
      ∀ c ∈ conditions, ∀ document, ∃ kept, c.accepts document = .ok kept :=
    fun h c hc => Condition.exists_accepts (h c hc).field (h c hc).noPattern
  refine ⟨haccepts h, exists_apply h, fun form logic => ?_⟩
  obtain ⟨read, hread, hlength, htextual⟩ := exists_ofConditions hforms form logic
  exact ⟨_, hread, hlength, haccepts htextual, exists_apply htextual _⟩

/-- Conditions that are wrong in several ways: an unknown operator with an object for its value, a
range with one bound, and a value that is no date; and an object form without field and operator. -/
theorem apply_of_isTextual_malformed :
    let conditions : List Condition := [⟨.str "a.0", .str "~", .record [("b", .null)], .number⟩,
      ⟨.str "a..b", .str "inRange", .array [.int 1], .date⟩,
      ⟨.str "d", .str "<", .str "2024-02-30", .date⟩]
    let documents : List Value := [.null, .record [("a", .array [.int 1])], .record [("d", .int 3)]]
    (∃ kept lines, apply ⟨conditions, .or⟩ (.list .frozen documents) = .ok (kept, lines) ∧
      kept.length = 1) ∧
    ∃ f, ofConditions (.array [.record [("value", .str "x")]]) (.str "or") = .ok f := by
  intro conditions documents
  have hconditions : ∀ c ∈ conditions, c.IsTextual := by
    simp only [conditions, List.forall_mem_cons]
    refine ⟨⟨rfl, rfl, ?_⟩, ⟨rfl, rfl, ?_⟩, ⟨rfl, rfl, ?_⟩, List.forall_mem_nil _⟩
    all_goals decide +kernel
  have hforms : ∀ v ∈ [Value.record [("value", .str "x")]], ∃ form members,
      v = .object form members ∧ Condition.IsTextualForm members :=
    List.forall_mem_singleton.mpr
      ⟨_, _, rfl, .inr rfl, .inr rfl, fun hregex => nomatch hregex⟩
  obtain ⟨-, happly, hread⟩ := apply_of_isTextual hconditions hforms
  obtain ⟨lines, hlines⟩ := happly .or .frozen documents
  obtain ⟨f, hf, -⟩ := hread .plain (.str "or")
  exact ⟨⟨_, lines, hlines, by decide +kernel⟩, f, hf⟩

end FilterSet

end DocView
