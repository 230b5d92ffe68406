import DocView.Proofs.Filter.Set
import DocView.Proofs.Query.Distinction

/-!
# Replaying a frozen selector

A stored query holds its selector frozen, and a replay reads the selector as it is held. It should
make no difference that the selector was plain when the query was made, and often it makes none;
but the replay thaws only the top of each argument. A selector *survives freezing* if every one of
its operators reads the frozen copy of its argument as the argument.

That is exactly what it takes. One operator that does not survive need not show in the documents
that a whole selector selects, since other clauses of the selector may reject them anyway. So the
converse is about the clauses: a selector that does not survive has a clause that, as a selector of
its own, selects a document plain and rejects it frozen, or the other way around.

## Main definitions

* `Query.clauses` - the selectors of one condition that a selector is made of
* `Query.SurvivesFreezing`
* `Query.ReplaysAlike`

## Main results

* `Query.conditionsOf_frozen_alike`
* `Query.replaysAlike_iff_survivesFreezing`
-/

namespace DocView

theorem Operator.ofValue?_name (op : Operator) : ofValue? (.str op.name) = some op := by
  cases op <;> rfl

namespace Query

variable {field : String} {op : Operator} {argument v : Value} {selector : Members}

/-- The selectors of one condition that one member of a selector is made of. -/
def memberClauses (field : String) (v : Value) : List Members :=
  match v with
  | .object form members => members.map fun entry => [(field, .object form [entry])]
  | v => [[(field, v)]]

/-- The selectors of one condition that a selector is made of. -/
def clauses (selector : Members) : List Members :=
  selector.flatMap fun entry => memberClauses entry.1 entry.2

/-- Whether what a selector says of one field reads the same frozen: every operator of a clause
that filters have, or else the test for equality. -/
def MemberSurvives (v : Value) : Prop :=
  match v with
  | .object _ members => ∀ entry ∈ members, ∀ op, Operator.ofStoreName? entry.1 = some op →
      op.ReadsFrozen entry.2
  | v => Operator.equals.ReadsFrozen v

/-- Whether a selector reads the same frozen. Names that start with a dollar sign are passed over
and the empty name constrains nothing. -/
def SurvivesFreezing (selector : Members) : Prop :=
  ∀ entry ∈ selector, entry.1 ≠ "" → ¬ Text.startsWith entry.1 "$" → MemberSurvives entry.2

/-- Whether the query that holds a selector selects the documents that the selector itself does,
or fails as it does. -/
def ReplaysAlike (selector : Members) (limit documents : Value) : Prop :=
  (FilterSet.apply ⟨conditions (ofSelector selector limit [] []), .and⟩ documents).map Prod.fst
    = (FilterSet.apply ⟨conditionsOf selector, .and⟩ documents).map Prod.fst

/-! ### The condition of an operator -/

theorem isKnown_operatorCondition (field : String) (op : Operator) (argument : Value) :
    (operatorCondition field op argument).isKnown := by
  unfold operatorCondition
  split <;> exact Option.isSome_iff_exists.mpr ⟨op, Operator.ofValue?_name op⟩

/-- A condition on the empty name accepts everything. -/
theorem accepts_operatorCondition_empty (op : Operator) (argument document : Value) :
    (operatorCondition "" op argument).accepts document = .ok true := by
  unfold operatorCondition
  split <;> rfl

theorem accepts_condition (hfield : field ≠ "") {value : Value} (hset : value.isUnset = false)
    (op : Operator) (type : FieldType) (document : Value) :
    (condition field op value type).accepts document
      = Filter.evaluate (Filter.prepareFieldValue type (Document.namedField document field))
        (some op) (Filter.prepareFilterValue type (some op) value) := by
  have htruthy : (Value.str field).truthy = true := bne_iff_ne.mpr hfield
  have hvacuous : (condition field op value type).isVacuous = false := by
    simp [Condition.isVacuous, condition, htruthy, hset]
  have hop : (condition field op value type).operator? = some op := Operator.ofValue?_name op
  rw [Condition.accepts, hvacuous, hop]
  rfl

/-- A condition on a name answers for the field of that name. -/
theorem accepts_operatorCondition (hfield : field ≠ "") (hset : argument.isUnset = false)
    (document : Value) : (operatorCondition field op argument).accepts document
      = answer op argument (Document.namedField document field) := by
  have hplain : (plainList argument).isUnset = false := by
    cases argument <;> first | rfl | contradiction
  unfold answer operatorCondition
  split
  · exact accepts_condition hfield rfl op .string document
  · exact accepts_condition hfield hplain op _ document

/-- Two operators that answer alike make conditions that are alike, on every name but the empty
one, which accepts everything. -/
theorem alike_operatorCondition (hset : argument.isUnset = false)
    (h : field ≠ "" → ∀ v, answer op argument.freeze v = answer op argument v) :
    (operatorCondition field op argument.freeze).Alike (operatorCondition field op argument) where
  known := isKnown_operatorCondition field op argument.freeze
  known' := isKnown_operatorCondition field op argument
  accepts document := by
    have hfrozen : argument.freeze.isUnset = false :=
      (Value.isUnset_withForm .frozen argument).trans hset
    -- Only here does it matter that the empty name is passed over.
    by_cases hfield : field = ""
    · subst hfield
      rw [accepts_operatorCondition_empty, accepts_operatorCondition_empty]
    · rw [accepts_operatorCondition hfield hset, accepts_operatorCondition hfield hfrozen,
        h hfield]

/-! ### The conditions of a selector -/

theorem memberConditions_dollar (hfield : Text.startsWith field "$") :
    memberConditions field v = [] := by
  unfold memberConditions
  rw [if_pos hfield]

theorem memberConditions_null (hfield : ¬ Text.startsWith field "$") :
    memberConditions field .null = [condition field .isNull (.bool true) .string] := by
  unfold memberConditions
  rw [if_neg hfield]

/-- A value that is no clause stands for a test of equality. -/
theorem memberConditions_literal (hfield : ¬ Text.startsWith field "$") (hnull : v.isNull = false)
    (hobject : v.isObject = false) :
    memberConditions field v = [operatorCondition field .equals v] := by
  unfold memberConditions
  rw [if_neg hfield]
  cases v with
  | null | object => contradiction
  | list form items =>
    show [condition field .equals (plainList (.list form items)) (typeOf (.list form items))] = _
    rw [← typeOf_plainList]
    rfl
  | _ => rfl

theorem memberConditions_literal_freeze (hfield : ¬ Text.startsWith field "$")
    (hnull : v.isNull = false) (hobject : v.isObject = false) :
    memberConditions field v.freeze = [operatorCondition field .equals v.freeze] :=
  memberConditions_literal hfield ((Value.isNull_withForm .frozen v).trans hnull)
    ((Value.isObject_withForm .frozen v).trans hobject)

theorem memberConditions_object (hfield : ¬ Text.startsWith field "$") (form : Form)
    (members : Members) : memberConditions field (.object form members)
      = members.filterMap fun entry => clauseCondition? field entry.1 entry.2 := by
  rw [memberConditions, if_neg hfield]

/-- An operator that filters have stands for its condition. -/
theorem clauseCondition?_of_ofStoreName? {name : String}
    (hname : Operator.ofStoreName? name = some op) :
    clauseCondition? field name argument = some (operatorCondition field op argument) := by
  have hexists : name ≠ "$exists" := by
    rintro rfl
    contradiction
  rw [clauseCondition?, if_neg hexists, hname]
  rfl

theorem isUnset_of_isJson (hv : v.isJson) : v.isUnset = false := by
  cases v <;> first | rfl | contradiction

theorem alike_self {c : Condition} (hc : c.isKnown) : c.Alike c :=
  ⟨hc, hc, fun _ => rfl⟩

/-- One operator of a clause stands for two conditions that are alike, or for none. -/
theorem clauseCondition?_freeze_alike {name : String} (hargument : argument.isJson)
    (h : field ≠ "" → ∀ op, Operator.ofStoreName? name = some op → op.ReadsFrozen argument) :
    (clauseCondition? field name argument.freeze = none ∧
      clauseCondition? field name argument = none) ∨
    ∃ c c', clauseCondition? field name argument.freeze = some c ∧
      clauseCondition? field name argument = some c' ∧ c.Alike c' := by
  by_cases hexists : name = "$exists"
  -- A check for presence reads only whether its argument is truthy.
  · subst hexists
    rw [clauseCondition?, clauseCondition?, Value.freeze, Value.truthy_withForm]
    refine .inr ⟨_, _, rfl, rfl, alike_self ?_⟩
    split <;> rfl
  · cases hname : Operator.ofStoreName? name with
    | none =>
      rw [clauseCondition?, clauseCondition?, if_neg hexists, if_neg hexists, hname]
      exact .inl ⟨rfl, rfl⟩
    | some op =>
      rw [clauseCondition?_of_ofStoreName? hname, clauseCondition?_of_ofStoreName? hname]
      refine .inr ⟨_, _, rfl, rfl, alike_operatorCondition (isUnset_of_isJson hargument) ?_⟩
      exact fun hfield v => answer_freeze hname hargument (h hfield op hname) v

theorem filterMap_clauseCondition?_alike {members : Members}
    (hmembers : ∀ entry ∈ members, entry.2.isJson)
    (h : field ≠ "" → ∀ entry ∈ members, ∀ op, Operator.ofStoreName? entry.1 = some op →
      op.ReadsFrozen entry.2) :
    List.Forall₂ Condition.Alike
      ((members.map fun entry => (entry.1, entry.2.freeze)).filterMap fun entry =>
        clauseCondition? field entry.1 entry.2)
      (members.filterMap fun entry => clauseCondition? field entry.1 entry.2) := by
  induction members with
  | nil => exact .nil
  | cons entry rest ih =>
    obtain ⟨hentry, hothers⟩ := List.forall_mem_cons.mp hmembers
    have hrest := ih hothers fun hfield e he => h hfield e (List.mem_cons_of_mem _ he)
    rw [List.map_cons]
    rcases clauseCondition?_freeze_alike hentry
        fun hfield => h hfield entry List.mem_cons_self with
      ⟨hfrozen, hplain⟩ | ⟨c, c', hc, hc', halike⟩
    · simp only [List.filterMap_cons, hfrozen, hplain]
      exact hrest
    · simp only [List.filterMap_cons, hc, hc']
      exact .cons halike hrest

/-- A member that survives stands for conditions that are alike. -/
theorem memberConditions_freeze_alike (hv : v.isJson)
    (h : field ≠ "" → ¬ Text.startsWith field "$" → MemberSurvives v) :
    List.Forall₂ Condition.Alike (memberConditions field v.freeze) (memberConditions field v) := by
  by_cases hfield : Text.startsWith field "$"
  · rw [memberConditions_dollar hfield, memberConditions_dollar hfield]
    exact .nil
  · cases hobject : v.isObject with
    | true =>
      cases v with
      | object form members =>
        rw [Value.freeze, Value.withForm_object, memberConditions_object hfield,
          memberConditions_object hfield]
        exact filterMap_clauseCondition?_alike (Value.isJson_object.mp hv).2.2
          fun hne => h hne hfield
      | _ => contradiction
    | false =>
      cases hnull : v.isNull with
      | true =>
        cases v with
        | null => exact memberConditions_null hfield ▸ .cons (alike_self rfl) .nil
        | _ => contradiction
      | false =>
        have hreads : field ≠ "" → Operator.equals.ReadsFrozen v := by
          intro hne
          have hsurvives := h hne hfield
          cases v <;> first | exact hsurvives | contradiction
        rw [memberConditions_literal hfield hnull hobject,
          memberConditions_literal_freeze hfield hnull hobject]
        refine .cons (alike_operatorCondition (isUnset_of_isJson hv) fun hne => ?_) .nil
        have hname : Operator.ofStoreName? "$eq" = some .equals := rfl
        exact answer_freeze hname hv (hreads hne)

/-- **A selector that survives freezing stands for conditions that are alike**, frozen and
plain. -/
theorem conditionsOf_frozen_alike (hs : (Value.record selector).isJson)
    (h : SurvivesFreezing selector) :
    List.Forall₂ Condition.Alike (conditionsOf (Value.withFormMembers .frozen selector))
      (conditionsOf selector) := by
  have hvalues : ∀ entry ∈ selector, entry.2.isJson := (Value.isJson_object.mp hs).2.2
  clear hs
  rw [Value.withFormMembers_eq_map]
  induction selector with
  | nil => exact .nil
  | cons entry rest ih =>
    rw [List.map_cons, conditionsOf, conditionsOf, List.flatMap_cons, List.flatMap_cons]
    obtain ⟨hvalue, hothers⟩ := List.forall_mem_cons.mp hvalues
    obtain ⟨hentry, hrest⟩ := List.forall_mem_cons.mp h
    exact List.rel_append (memberConditions_freeze_alike hvalue hentry) (ih hrest hothers)

/-- **A selector that survives freezing is replayed as it was**, on all documents. -/
theorem SurvivesFreezing.replaysAlike (h : SurvivesFreezing selector)
    (hs : (Value.record selector).isJson) (limit documents : Value) :
    ReplaysAlike selector limit documents :=
  congrArg (Except.map Prod.fst)
    (FilterSet.apply_congr (conditionsOf_frozen_alike hs h) .and documents)

/-! ### Clauses -/

variable {part : Members}

theorem memberClauses_cases (hpart : part ∈ memberClauses field v) :
    (∃ form members entry, v = .object form members ∧ entry ∈ members ∧
      part = [(field, .object form [entry])]) ∨ part = [(field, v)] := by
  cases v with
  | object form members =>
    obtain ⟨entry, hentry, rfl⟩ := List.mem_map.mp hpart
    exact .inl ⟨form, members, entry, rfl, hentry, rfl⟩
  | _ => exact .inr (List.mem_singleton.mp hpart)

theorem isJson_of_mem_clauses (hs : (Value.record selector).isJson)
    (hpart : part ∈ clauses selector) : (Value.record part).isJson := by
  obtain ⟨entry, hentry, hpart⟩ := List.mem_flatMap.mp hpart
  have hvalue : entry.2.isJson := (Value.isJson_object.mp hs).2.2 entry hentry
  have hsingle : ∀ {name : String} {w : Value}, w.isJson → (Value.record [(name, w)]).isJson :=
    fun hw => Value.isJson_object.mpr
      ⟨rfl, List.nodup_singleton _, List.forall_mem_singleton.mpr hw⟩
  rcases memberClauses_cases hpart with ⟨form, members, e, hobject, he, rfl⟩ | rfl
  · rw [hobject, Value.isJson_object] at hvalue
    obtain ⟨rfl, -, hmembers⟩ := hvalue
    exact hsingle (hsingle (hmembers e he))
  · exact hsingle hvalue

theorem SurvivesFreezing.of_mem_clauses (h : SurvivesFreezing selector)
    (hpart : part ∈ clauses selector) : SurvivesFreezing part := by
  obtain ⟨entry, hentry, hpart⟩ := List.mem_flatMap.mp hpart
  have hsurvives := h entry hentry
  rcases memberClauses_cases hpart with ⟨form, members, e, hobject, he, rfl⟩ | rfl
  · refine List.forall_mem_singleton.mpr fun hne hfield => ?_
    have hmembers := hsurvives hne hfield
    rw [hobject] at hmembers
    exact List.forall_mem_singleton.mpr (hmembers e he)
  · exact List.forall_mem_singleton.mpr hsurvives

/-- A document that has a value under a name, whatever the name. -/
def documentWith (field : String) (v : Value) : Value := .record [("doc", .record [(field, v)])]

theorem namedField_documentWith (field : String) (v : Value) :
    Document.namedField (documentWith field v) field = v := by
  have hbody : Document.body (documentWith field v) = [(field, v)] := rfl
  rw [Document.namedField, hbody, Members.get?_cons, if_pos rfl]

theorem isJson_documentWith (field : String) (hv : v.isJson) : (documentWith field v).isJson := by
  simp [documentWith, Value.isJson_object, Members.names, hv]

/-- An operator that does not read its frozen argument correctly selects another document of
one. -/
theorem exists_not_replaysAlike {limit : Value} (hfield : field ≠ "") (hargument : argument.isJson)
    (hreads : ¬ op.ReadsFrozen argument)
    (hfrozen : conditionsOf (Value.withFormMembers .frozen part)
      = [operatorCondition field op argument.freeze])
    (hplain : conditionsOf part = [operatorCondition field op argument]) :
    ∃ document : Value, document.isJson ∧ ¬ ReplaysAlike part limit (.array [document]) := by
  obtain ⟨v, hv, hne⟩ := exists_answer_freeze_ne hargument hreads
  refine ⟨documentWith field v, isJson_documentWith field hv, fun hsame => hne ?_⟩
  have hunset : argument.isUnset = false := isUnset_of_isJson hargument
  have hunset' : argument.freeze.isUnset = false :=
    (Value.isUnset_withForm .frozen argument).trans hunset
  rw [ReplaysAlike, conditions, ofSelector, hfrozen, hplain] at hsame
  have haccepts := FilterSet.accepts_eq_of_apply_singleton
    (isKnown_operatorCondition field op argument.freeze)
    (isKnown_operatorCondition field op argument) hsame
  rw [accepts_operatorCondition hfield hunset', accepts_operatorCondition hfield hunset,
    namedField_documentWith] at haccepts
  exact haccepts

theorem conditionsOf_singleton (field : String) (v : Value) :
    conditionsOf [(field, v)] = memberConditions field v := by
  rw [conditionsOf, List.flatMap_singleton]

theorem conditionsOf_operator {name : String} (hfield : ¬ Text.startsWith field "$")
    (hname : Operator.ofStoreName? name = some op) (form : Form) (argument : Value) :
    conditionsOf [(field, .object form [(name, argument)])]
      = [operatorCondition field op argument] := by
  rw [conditionsOf_singleton, memberConditions_object hfield]
  simp only [List.filterMap_cons, clauseCondition?_of_ofStoreName? hname, List.filterMap_nil]

/-- A selector that does not survive has a clause that selects another document of one. -/
theorem exists_clause_not_replaysAlike (hs : (Value.record selector).isJson)
    (h : ¬ SurvivesFreezing selector) (limit : Value) :
    ∃ clause ∈ clauses selector, ∃ document : Value, document.isJson ∧
      ¬ ReplaysAlike clause limit (.array [document]) := by
  unfold SurvivesFreezing at h
  push Not at h
  obtain ⟨⟨field, v⟩, hentry, hne, hfield, hsurvives⟩ := h
  have hv : v.isJson := (Value.isJson_object.mp hs).2.2 _ hentry
  cases hobject : v.isObject with
  | true =>
    cases v with
    | object form members =>
      have hsurvives : ¬ ∀ entry ∈ members, ∀ op, Operator.ofStoreName? entry.1 = some op →
          op.ReadsFrozen entry.2 := hsurvives
      push Not at hsurvives
      obtain ⟨⟨name, argument⟩, he, op, hname, hreads⟩ := hsurvives
      have hclause : [(field, Value.object form [(name, argument)])] ∈ clauses selector :=
        List.mem_flatMap.mpr ⟨_, hentry, List.mem_map.mpr ⟨_, he, rfl⟩⟩
      have hargument : argument.isJson := (Value.isJson_object.mp hv).2.2 _ he
      exact ⟨_, hclause, exists_not_replaysAlike hne hargument hreads
        (conditionsOf_operator hfield hname .frozen argument.freeze)
        (conditionsOf_operator hfield hname form argument)⟩
    | _ => contradiction
  | false =>
    have hreads : ¬ Operator.equals.ReadsFrozen v := by
      cases v <;> first | exact hsurvives | contradiction
    have hnull : v.isNull = false := by
      cases v with
      | null => exact absurd rfl hreads
      | _ => rfl
    have hclause : [(field, v)] ∈ clauses selector := by
      refine List.mem_flatMap.mpr ⟨_, hentry, ?_⟩
      cases v <;> first | exact List.mem_singleton.mpr rfl | contradiction
    exact ⟨_, hclause, exists_not_replaysAlike hne hv hreads
      ((conditionsOf_singleton field v.freeze).trans
        (memberConditions_literal_freeze hfield hnull hobject))
      ((conditionsOf_singleton field v).trans (memberConditions_literal hfield hnull hobject))⟩

/-! ### Exactly the selectors that survive -/

/-- **A selector and its clauses are replayed as they were exactly if the selector survives
freezing.** Otherwise one document of JSON is enough to show it, on one of the clauses. -/
theorem replaysAlike_iff_survivesFreezing (hs : (Value.record selector).isJson) (limit : Value) :
    ((∀ part ∈ selector :: clauses selector, ∀ documents, ReplaysAlike part limit documents)
      ↔ SurvivesFreezing selector) ∧
    (¬ SurvivesFreezing selector → ∃ clause ∈ clauses selector, ∃ document : Value,
      document.isJson ∧ ¬ ReplaysAlike clause limit (.array [document])) := by
  refine ⟨⟨fun halike => ?_, fun h part hpart documents => ?_⟩, fun h => ?_⟩
  · by_contra h
    obtain ⟨clause, hclause, document, -, hne⟩ := exists_clause_not_replaysAlike hs h limit
    exact hne (halike clause (List.mem_cons_of_mem _ hclause) (.array [document]))
  · rcases List.mem_cons.mp hpart with rfl | hclause
    · exact h.replaysAlike hs limit documents
    · exact (h.of_mem_clauses hclause).replaysAlike (isJson_of_mem_clauses hs hclause) limit
        documents
  · exact exists_clause_not_replaysAlike hs h limit

/-- A bound and a list of texts survive; a list inside of a list does not. -/
theorem replaysAlike_ages_and_nested :
    (∀ documents, ReplaysAlike
      [("age", .record [("$lt", .int 65)]), ("tags", .array [.str "x"])] (.int 25) documents) ∧
    ∃ clause ∈ clauses [("a", .array [.array [.str "x"]])], ∃ document : Value,
      document.isJson ∧ ¬ ReplaysAlike clause (.int 25) (.array [document]) := by
  constructor
  · have hsurvives : SurvivesFreezing
        [("age", .record [("$lt", .int 65)]), ("tags", .array [.str "x"])] := by
      refine List.forall_mem_cons.mpr ⟨fun _ _ => ?_, List.forall_mem_singleton.mpr fun _ _ => ?_⟩
      · refine List.forall_mem_singleton.mpr fun op hop => ?_
        obtain rfl : .lessThan = op := Option.some.inj hop
        trivial
      · exact List.forall_mem_singleton.mpr rfl
    exact (replaysAlike_iff_survivesFreezing (by decide) (.int 25)).1.mpr hsurvives _
      List.mem_cons_self
  · refine (replaysAlike_iff_survivesFreezing (by decide) (.int 25)).2 fun hsurvives => ?_
    have hflat := hsurvives _ List.mem_cons_self (by decide) (by decide)
    exact absurd (hflat (.array [.str "x"]) List.mem_cons_self) (by decide)

/-- A list inside of a list: the document that has just that value is selected by the selector,
and not by the query that holds the selector. -/
theorem not_replaysAlike_nested :
    ¬ ∀ selector : Members, (Value.record selector).isJson → ∀ documents : List Value,
      ReplaysAlike selector (.int 25) (.array documents) := by
  intro h
  have hsame := h [("a", .array [.array [.str "x"]])] (by decide)
    [.record [("a", .array [.array [.str "x"]])]]
  have haccepts := FilterSet.accepts_eq_of_apply_singleton
    (isKnown_operatorCondition "a" .equals (.list .frozen [.list .frozen [.str "x"]]))
    (isKnown_operatorCondition "a" .equals (.array [.array [.str "x"]])) hsame
  have hfrozen : (operatorCondition "a" .equals (.list .frozen [.list .frozen [.str "x"]])).accepts
      (.record [("a", .array [.array [.str "x"]])]) = .ok false := by rfl
  have hplain : (operatorCondition "a" .equals (.array [.array [.str "x"]])).accepts
      (.record [("a", .array [.array [.str "x"]])]) = .ok true := by rfl
  rw [hfrozen, hplain] at haccepts
  contradiction

end Query

end DocView
