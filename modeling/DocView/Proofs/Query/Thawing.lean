import DocView.Proofs.Json.Data
import DocView.Proofs.Query.Replay
import DocView.Proofs.Query.RoundTrip
import DocView.Proofs.SavedView

/-!
# Conditions with plain lists

The conditions that a query stands for come out of its frozen selector, so read-only containers may
be left inside of their values. Whatever takes such a condition elsewhere, a response or a file,
brings it back *thawed*, with plain containers at every depth. That is the condition that the
selector would have stood for if it had never been frozen, so what decides is again whether the
operator reads the frozen copy of its argument as the argument. Here this is asked of the condition
at hand: the argument is what its value thaws to, and the value is the frozen copy of that, except
that a list is plain at the top (`Query.FromArgument.value_eq`).

What arguments there can be is left open as a property. For a query from a text it is what the
reader of JSON makes, which an object passes on to its members.

## Main definitions

* `Condition.thawed`, `Condition.SurvivesThawing`
* `Query.FromArgument` - the conditions that frozen selectors stand for

## Main results

* `Query.exists_selector_of_ofText` - what a query from a text selects by is JSON
* `Query.FromArgument.alike_thawed`, `Query.FromArgument.exists_told_apart`
-/

namespace DocView

namespace Condition

/-- The condition with plain containers only. -/
def thawed (c : Condition) : Condition := { c with value := c.value.thaw }

/-- Whether the condition says the same with plain containers. -/
def SurvivesThawing (c : Condition) : Prop :=
  c.field.truthy → ∀ op, c.operator? = some op → op.ReadsFrozen c.value.thaw

/-- What is no container is its own thawed copy. -/
theorem survivesThawing_of_scalar {c : Condition} (hscalar : c.value.isContainer = false) :
    c.SurvivesThawing := by
  intro _ op _
  rw [Value.thaw, Value.withForm_of_scalar hscalar]
  exact Query.readsFrozen_of_scalar hscalar

/-- The field is a text, and the operator is spelled by its name. -/
def IsNamed (c : Condition) : Prop :=
  ∃ (field : String) (op : Operator), c.field = .str field ∧ c.operator = .str op.name

theorem IsNamed.thawed {c : Condition} (hc : c.IsNamed) : c.thawed.IsNamed := hc

theorem IsNamed.isKnown {c : Condition} (hc : c.IsNamed) : c.isKnown := by
  obtain ⟨field, op, -, hop⟩ := hc
  rw [Condition.isKnown, Condition.operator?, hop, Operator.ofValue?_name]
  rfl

/-- A condition that names its field and its operator has no defaults to be filled in. -/
theorem IsNamed.isFilledIn {c : Condition} (hc : c.IsNamed) : c.IsFilledIn := by
  obtain ⟨field, op, hfield, hop⟩ := hc
  constructor
  · rw [hfield, Value.orElse]
    split_ifs with htruthy
    · rfl
    · have hempty : field = "" := by simpa [Value.truthy] using htruthy
      rw [hempty]
  · rw [hop]
    cases op <;> rfl

end Condition

namespace Query

variable {field : String} {op : Operator} {argument v : Value} {selector : Members}
  {c : Condition}

/-! ### Queries from texts -/

/-- A text that is a query is an object of JSON, whatever the limit that stands in. -/
theorem exists_object_of_ofText {s : String} {limit : Value} {q : Query}
    (h : ofText s limit = .ok q) : ∃ members : Members, Json.IsRead (.record members) ∧
      ∀ other, ofText s other = ofObject (.record members) other := by
  unfold ofText at h ⊢
  dsimp only at h ⊢
  split_ifs at h ⊢ with hempty
  cases hread : Json.read (withoutFences s) with
  | error e =>
    rw [hread] at h
    cases e <;> cases h
  | ok v =>
    have hmade := Json.isRead_of_read hread
    rw [hread] at h
    cases hmade with
    | object distinct parts => exact ⟨_, .object distinct parts, fun _ => rfl⟩
    | _ => cases h

theorem limitOr_default {requested default n : Value} (h : limitOr requested default = .ok n)
    (other : Value) : ∃ n, limitOr requested other = .ok n := by
  obtain ⟨m, hm, -⟩ := bind_eq_ok.mp h
  rw [limitOr, hm]
  cases m <;> exact ⟨_, rfl⟩

/-- What is read of the members of a query is a limit and three things that do not depend on it. -/
theorem ofMembers_eq_ok {members : Members} {limit : Value} {q : Query}
    (h : ofMembers members limit = .ok q) :
    ∃ selector, selectorOf (Value.member members "selector") = .ok selector ∧
      q.selector = Value.withFormMembers .frozen selector ∧
      ∀ other, ∃ n, ofMembers members other = .ok { q with limit := n } := by
  obtain ⟨n, hlimit, h⟩ := bind_eq_ok.mp h
  obtain ⟨fields, hfields, h⟩ := bind_eq_ok.mp h
  obtain ⟨sort, hsort, h⟩ := bind_eq_ok.mp h
  obtain ⟨selector, hselector, h⟩ := bind_eq_ok.mp h
  obtain rfl := Except.ok.inj h
  refine ⟨selector, hselector, rfl, fun other => ?_⟩
  obtain ⟨n', hlimit'⟩ := limitOr_default hlimit other
  rw [ofMembers, hlimit', hfields, hsort, hselector]
  exact ⟨n', rfl⟩

/-- **A query from a text selects by what was read**, frozen as a whole, and the limit that stands in
for a missing one is no matter for what it selects. -/
theorem exists_selector_of_ofText {s : String} {limit : Value} {q : Query}
    (h : ofText s limit = .ok q) :
    ∃ selector : Members, Json.IsRead (.record selector) ∧
      q.selector = Value.withFormMembers .frozen selector ∧
      ∀ other, ∃ n, ofText s other = .ok { q with limit := n } := by
  obtain ⟨members, hmade, hsame⟩ := exists_object_of_ofText h
  rw [hsame] at h
  simp only [hsame]
  unfold ofObject at h ⊢
  cases hget : Members.get? members "selector" with
  | none =>
    simp only [hget] at h ⊢
    obtain rfl := Except.ok.inj h
    exact ⟨members, hmade, rfl, fun other => ⟨other, rfl⟩⟩
  | some v =>
    have hv : Json.IsRead v := by
      cases hmade with
      | object _ parts => exact parts _ (Members.mem_of_get? hget)
    cases hv with
    | @object inner distinct parts =>
      simp only [hget] at h ⊢
      obtain ⟨checked, hchecked, h⟩ := bind_eq_ok.mp h
      obtain ⟨selector, hselector, hfrozen, hlimit⟩ := ofMembers_eq_ok h
      have hmember : Value.member members "selector" = .record inner := by
        rw [Value.member, hget]
        rfl
      rw [hmember, selectorOf_record distinct] at hselector
      obtain rfl := Except.ok.inj hselector
      refine ⟨_, .object distinct parts, hfrozen, fun other => ?_⟩
      rw [hchecked]
      exact hlimit other
    | _ => simp [hget] at h

/-! ### The conditions of a frozen selector -/

/-- The conditions that frozen selectors stand for: a check for presence, or an operator with the
frozen copy of an argument, which has a property. -/
inductive FromArgument (P : Value → Prop) : Condition → Prop
  | presence (field : String) (argument : Value) :
    FromArgument P (condition field (if argument.truthy then .isNotNull else .isNull) (.bool true)
      .string)
  | operator (field : String) {name : String} {op : Operator} {argument : Value}
    (known : Operator.ofStoreName? name = some op) (given : P argument) :
    FromArgument P (operatorCondition field op argument.freeze)

section

variable {P : Value → Prop}

theorem fromArgument_of_clauseCondition? {name : String} (hgiven : P argument)
    (h : clauseCondition? field name argument.freeze = some c) : FromArgument P c := by
  by_cases hexists : name = "$exists"
  · rw [clauseCondition?, if_pos hexists] at h
    obtain rfl := Option.some.inj h
    exact .presence field argument.freeze
  · cases hname : Operator.ofStoreName? name with
    | none =>
      rw [clauseCondition?, if_neg hexists, hname] at h
      cases h
    | some op =>
      rw [clauseCondition?_of_ofStoreName? hname] at h
      obtain rfl := Option.some.inj h
      exact .operator field hname hgiven

variable (hP : ∀ form members, P (.object form members) → ∀ entry ∈ members, P entry.2)
include hP

theorem fromArgument_of_memberConditions (hgiven : P v)
    (hc : c ∈ memberConditions field v.freeze) : FromArgument P c := by
  by_cases hfield : Text.startsWith field "$"
  · rw [memberConditions_dollar hfield] at hc
    cases hc
  · cases hobject : v.isObject with
    | true =>
      cases v with
      | object form members =>
        rw [Value.freeze, Value.withForm_object, memberConditions_object hfield,
          List.mem_filterMap] at hc
        obtain ⟨entry, hentry, hclause⟩ := hc
        obtain ⟨given, hmem, rfl⟩ := List.mem_map.mp hentry
        exact fromArgument_of_clauseCondition? (hP form members hgiven given hmem) hclause
      | _ => contradiction
    | false =>
      cases hnull : v.isNull with
      | true =>
        cases v with
        | null =>
          obtain rfl := List.mem_singleton.mp (memberConditions_null hfield ▸ hc)
          exact .presence field (.bool false)
        | _ => contradiction
      | false =>
        rw [memberConditions_literal_freeze hfield hnull hobject, List.mem_singleton] at hc
        have hname : Operator.ofStoreName? "$eq" = some .equals := rfl
        exact hc ▸ .operator field hname hgiven

/-- **The conditions of a frozen selector have arguments with any property that the selector has**,
if an object passes it on to its members. -/
theorem fromArgument_of_mem (hgiven : P (.record selector))
    (hc : c ∈ conditionsOf (Value.withFormMembers .frozen selector)) : FromArgument P c := by
  rw [Value.withFormMembers_eq_map] at hc
  obtain ⟨entry, hentry, hc⟩ := List.mem_flatMap.mp hc
  obtain ⟨given, hmem, rfl⟩ := List.mem_map.mp hentry
  exact fromArgument_of_memberConditions hP (hP .plain selector hgiven given hmem) hc

end

theorem FromArgument.isNamed {P : Value → Prop} (h : FromArgument P c) : c.IsNamed := by
  cases h with
  | presence field argument => exact ⟨field, _, rfl, rfl⟩
  | @operator field _ op argument =>
    unfold operatorCondition
    split <;> exact ⟨field, op, rfl, rfl⟩

/-! ### The condition of an operator -/

theorem operator?_operatorCondition (field : String) (op : Operator) (argument : Value) :
    (operatorCondition field op argument).operator? = some op := by
  unfold operatorCondition
  split <;> exact Operator.ofValue?_name op

theorem truthy_field_operatorCondition (field : String) (op : Operator) (argument : Value) :
    (operatorCondition field op argument).field.truthy = (field != "") := by
  unfold operatorCondition
  split <;> rfl

theorem value_operatorCondition (field : String) (hop : op ≠ .regex) (argument : Value) :
    (operatorCondition field op argument).value = plainList argument := by
  rw [operatorCondition, if_neg hop]
  rfl

theorem thaw_plainList (v : Value) : (plainList v).thaw = v.thaw := by
  cases v <;> rfl

theorem isNull_plainList (v : Value) : (plainList v).isNull = v.isNull := by
  cases v <;> rfl

theorem plainList_thaw (v : Value) : plainList v.thaw = v.thaw := by
  cases v <;> rfl

theorem hasObject_plainList (v : Value) : (plainList v).hasObject = v.hasObject := by
  cases v <;> rfl

theorem exists_answer (hop : op ≠ .regex) (argument v : Value) :
    ∃ kept, answer op argument v = .ok kept :=
  Filter.exists_evaluate hop _ _

/-- With plain containers, it is the condition of the argument that was not frozen. -/
theorem thawed_operatorCondition (field : String) (hop : op ≠ .regex)
    (hplain : argument.freeze.thaw = argument) :
    (operatorCondition field op argument.freeze).thawed = operatorCondition field op argument := by
  have htype : typeOf (plainList argument.freeze) = typeOf (plainList argument) := by
    rw [typeOf_plainList, typeOf_plainList, typeOf_freeze]
  have hlist : plainList argument = argument := by
    rw [← hplain, plainList_thaw]
  have hvalue : (plainList argument.freeze).thaw = plainList argument := by
    rw [thaw_plainList, hplain, hlist]
  rw [Condition.thawed, value_operatorCondition field hop, hvalue, operatorCondition,
    operatorCondition, if_neg hop, if_neg hop, htype]
  rfl

/-- The condition of an operator on a field survives if its argument may be frozen. -/
theorem survivesThawing_iff (hfield : field ≠ "") (hop : op ≠ .regex)
    (hplain : argument.freeze.thaw = argument) :
    (operatorCondition field op argument.freeze).SurvivesThawing ↔ op.ReadsFrozen argument := by
  rw [Condition.SurvivesThawing, truthy_field_operatorCondition, value_operatorCondition field hop,
    thaw_plainList, hplain, operator?_operatorCondition]
  simp [hfield]

namespace FromArgument

variable {P : Value → Prop}

/-- Of the value of a condition, only the outermost list is plain. -/
theorem value_eq (h : FromArgument P c) : c.value = plainList c.value.thaw.freeze := by
  cases h with
  | presence => rfl
  | @operator field _ op argument =>
    by_cases hop : op = .regex
    · subst hop
      rfl
    · rw [value_operatorCondition field hop, thaw_plainList]
      simp only [Value.thaw, Value.freeze, Value.withForm_withForm]

variable (hplain : ∀ v, P v → v.freeze.thaw = v)
include hplain

/-- What the value thaws to is the argument, or a truth value or a text. -/
theorem given_thaw (hbool : P (.bool true)) (htext : ∀ s, P (.str s)) (h : FromArgument P c) :
    P c.value.thaw := by
  cases h with
  | presence => exact hbool
  | @operator field _ op argument known given =>
    by_cases hop : op = .regex
    · subst hop
      exact htext _
    · rw [value_operatorCondition field hop, thaw_plainList, hplain argument given]
      exact given

/-- **A condition that survives says the same with plain containers.** -/
theorem alike_thawed (hset : ∀ v, P v → v.isUnset = false) (h : FromArgument P c)
    (hsurvives : c.SurvivesThawing) : c.Alike c.thawed := by
  cases h with
  | presence field argument =>
    refine alike_self ?_
    split <;> rfl
  | @operator field name op argument known given =>
    by_cases hop : op = .regex
    -- A pattern is text and stays as it is.
    · subst hop
      exact alike_self (isKnown_operatorCondition field .regex argument.freeze)
    · rw [thawed_operatorCondition field hop (hplain argument given)]
      refine alike_operatorCondition (hset argument given) fun hfield v => ?_
      have hreads := (survivesThawing_iff hfield hop (hplain argument given)).mp hsurvives
      exact answer_freeze_of_ne_regex known hop hreads v

/-- **A condition that does not survive says the opposite of some document** with plain containers,
if its value thaws to a value of JSON. The document is a value of JSON too. -/
theorem exists_told_apart (h : FromArgument P c) (hjson : c.value.thaw.isJson)
    (hsurvives : ¬ c.SurvivesThawing) :
    ∃ (document : Value) (kept : Bool), document.isJson ∧
      c.accepts document = .ok kept ∧ c.thawed.accepts document = .ok !kept := by
  cases h with
  | presence => exact absurd (Condition.survivesThawing_of_scalar rfl) hsurvives
  | @operator field name op argument known given =>
    have hop : op ≠ .regex := by
      rintro rfl
      exact hsurvives (Condition.survivesThawing_of_scalar rfl)
    have hfield : field ≠ "" := by
      rintro rfl
      refine hsurvives fun htruthy => ?_
      rw [truthy_field_operatorCondition] at htruthy
      contradiction
    rw [survivesThawing_iff hfield hop (hplain argument given)] at hsurvives
    rw [value_operatorCondition field hop, thaw_plainList, hplain argument given] at hjson
    -- Where the operator does not read the frozen argument correctly, a field value shows it.
    obtain ⟨v, hv, hne⟩ := exists_answer_freeze_ne hjson hsurvives
    have hset : argument.isUnset = false := isUnset_of_isJson hjson
    have hset' : argument.freeze.isUnset = false :=
      (Value.isUnset_withForm .frozen argument).trans hset
    obtain ⟨kept, hkept⟩ := exists_answer hop argument.freeze v
    obtain ⟨kept', hkept'⟩ := exists_answer hop argument v
    have hopposite : kept' = !kept :=
      Bool.eq_not_of_ne fun hsame => hne (by rw [hkept, hkept', hsame])
    refine ⟨documentWith field v, kept, isJson_documentWith field hv, ?_, ?_⟩
    · rw [accepts_operatorCondition hfield hset', namedField_documentWith, hkept]
    · rw [thawed_operatorCondition field hop (hplain argument given),
        accepts_operatorCondition hfield hset, namedField_documentWith, hkept', hopposite]

end FromArgument

end Query

end DocView
