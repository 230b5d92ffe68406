import DocView.Proofs.Filter.Container
import DocView.Proofs.Filter.Range
import DocView.Query.Replay

/-!
# Operators with frozen arguments

The selector of a query is frozen at every depth, and a replay makes plain again only what lies at
the top of an argument: a list becomes plain and its items stay frozen. Whether that can be noticed
depends on what the operator looks at.

* Equality sees the forms of all lists but the outermost, so a list inside of one makes it fail.
* The orders see as much, but have no opinion on objects; and *less than* does not look at a last
  item that nothing comes before.
* A list operator with an object for its list reads the text of the object, and a frozen object has
  another text than a plain one.
* A pattern is the display of its argument, in which frozen containers look different.

For each operator there is a condition that says when its argument may be frozen, and this module
shows that it is enough.

## Main definitions

* `Query.operatorCondition`, `Query.answer`
* `Operator.ReadsFrozen`

## Main results

* `Query.answer_freeze` - where the condition holds, no field value is told apart
-/

namespace DocView

namespace Value

/-- No list lies inside of a value other than the value itself. -/
def IsFlat : Value → Prop
  | .list _ items => ∀ v ∈ items, v.isListFree
  | v => v.isListFree

instance : DecidablePred IsFlat := fun v =>
  decidable_of_iff ((match v with
    | .list _ items => items.all isListFree
    | v => v.isListFree) = true) (by cases v <;> simp [IsFlat])

/-- A list is flat up to its last item, which may also be something that nothing comes before. -/
def IsFlatBeforeLast : Value → Prop
  | .list _ items => ∀ pre last, items = pre ++ [last] →
      (∀ v ∈ pre, v.isListFree) ∧ (last.isListFree ∨ last.isObject ∨ last = .array [])
  | _ => True

end Value

/-- Whether an operator compares the field with its argument as a whole. -/
def Operator.comparesWhole : Operator → Bool
  | .equals | .notEquals | .greaterThan | .greaterThanOrEqual | .lessThan | .lessThanOrEqual => true
  | _ => false

/-- Whether the frozen copy of an argument is as good as the argument. -/
def Operator.ReadsFrozen (op : Operator) (argument : Value) : Prop :=
  match op with
  | .equals | .notEquals => argument.IsFlat
  | .greaterThan | .greaterThanOrEqual | .lessThanOrEqual => argument.isObject ∨ argument.IsFlat
  | .lessThan => argument.IsFlatBeforeLast
  | .isIn | .notIn => ¬ argument.isObject ∧ argument.IsFlat
  | .regex => ∀ text : String,
      Filter.matchesPattern (.str text) (.str (Query.plainList argument.freeze).display)
        = Filter.matchesPattern (.str text) (.str argument.display)
  | _ => True

namespace Query

variable {op : Operator} {argument v w : Value} {items : List Value}

/-! ### The condition of an operator -/

/-- The condition that an operator with an argument stands for. -/
def operatorCondition (field : String) (op : Operator) (argument : Value) : Condition :=
  if op = .regex then condition field op (.str (plainList argument).display) .string
  else condition field op (plainList argument) (typeOf (plainList argument))

/-- What the condition of an operator says about a field value. -/
def answer (op : Operator) (argument v : Value) : Result Bool :=
  let c := operatorCondition "" op argument
  Filter.evaluate (Filter.prepareFieldValue c.type v) (some op)
    (Filter.prepareFilterValue c.type (some op) c.value)

/-! ### Types do not see the form -/

theorem allNumbers_map_withForm {form : Form}
    (hitems : ∀ v ∈ items, typeOf (v.withForm form) = typeOf v) :
    allNumbers (items.map (Value.withForm form)) = allNumbers items := by
  induction items with
  | nil => rfl
  | cons v rest ih =>
    obtain ⟨hv, hrest⟩ := List.forall_mem_cons.mp hitems
    rw [List.map_cons, allNumbers, allNumbers, Value.isNull_withForm, hv, ih hrest]

theorem hasPresent_map_withForm (form : Form) (items : List Value) :
    hasPresent (items.map (Value.withForm form)) = hasPresent items := by
  induction items with
  | nil => rfl
  | cons v rest ih => rw [List.map_cons, hasPresent, hasPresent, Value.isNull_withForm, ih]

theorem typeOf_withForm (form : Form) (v : Value) : typeOf (v.withForm form) = typeOf v := by
  induction v using Value.containerInduction with
  | list _ items ih =>
    rw [Value.withForm_list, typeOf, typeOf, allNumbers_map_withForm ih, hasPresent_map_withForm]
  | object => rfl
  | scalar v hv => rw [Value.withForm_of_scalar hv]

theorem typeOf_freeze (v : Value) : typeOf v.freeze = typeOf v := typeOf_withForm .frozen v

theorem typeOf_plainList (v : Value) : typeOf (plainList v) = typeOf v := by
  cases v <;> rfl

theorem isContainer_plainList (v : Value) : (plainList v).isContainer = v.isContainer := by
  cases v <;> rfl

theorem plainList_of_isJson (hv : v.isJson) : plainList v = v := by
  cases v with
  | list form items => rw [plainList, (Value.isJson_list.mp hv).1]
  | _ => rfl

/-- What is no container is its own plain list. -/
theorem plainList_of_scalar (hv : v.isContainer = false) : plainList v = v := by
  cases v <;> first | rfl | contradiction

/-! ### The answer as a comparison -/

/-- If an argument is prepared to a container, then the field value is compared with that. -/
theorem answer_eq_whenPresent {filter : Value} (hregex : op ≠ .regex)
    (hcheck : op.isNullCheck = false) (hfilter : filter.isContainer)
    (hprepared : Filter.prepareFilterValue (typeOf argument) (some op) (plainList argument) = filter)
    (v : Value) :
    answer op argument v
      = Filter.whenPresent (Filter.convert (typeOf argument) v)
          (Filter.compare (Filter.convert (typeOf argument) v) op filter) := by
  rw [answer, operatorCondition, if_neg hregex]
  show Filter.evaluate (Filter.convert (typeOf (plainList argument)) v) (some op)
    (Filter.prepareFilterValue (typeOf (plainList argument)) (some op) (plainList argument)) = _
  rw [typeOf_plainList, hprepared, Filter.evaluate_container hfilter hcheck]

/-! ### Operators that compare an argument as a whole -/

theorem answer_container (hop : op.comparesWhole) (hargument : argument.isContainer) (v : Value) :
    answer op argument v
      = Filter.whenPresent (Filter.convert (typeOf argument) v)
          (Filter.compare (Filter.convert (typeOf argument) v) op (plainList argument)) := by
  have hplain : (plainList argument).isContainer := (isContainer_plainList argument).trans hargument
  have hregex : op ≠ .regex := by rintro rfl; contradiction
  have hrange : op ≠ .inRange := by rintro rfl; contradiction
  have hlist : op.takesList = false := by cases op <;> first | rfl | contradiction
  have hcheck : op.isNullCheck = false := by cases op <;> first | rfl | contradiction
  exact answer_eq_whenPresent hregex hcheck hplain
    (Filter.prepareFilterValue_container hplain hlist hrange) v

/-- A field that is a container is compared as it is. -/
theorem answer_containers (hop : op.comparesWhole) (hargument : argument.isContainer)
    (hv : v.isContainer) : answer op argument v = Filter.compare v op (plainList argument) := by
  rw [answer_container hop hargument, Filter.convert_container hv, Filter.whenPresent_container hv]

/-- The answer stays the same if every comparison does. -/
theorem answer_freeze_of_compare (hop : op.comparesWhole)
    (h : ∀ w, Filter.compare w op (plainList argument.freeze)
      = Filter.compare w op (plainList argument)) (v : Value) :
    answer op argument.freeze v = answer op argument v := by
  cases hargument : argument.isContainer with
  | true =>
    rw [answer_container hop hargument, answer_container hop (Value.isContainer_freeze hargument),
      h, typeOf_freeze]
  | false => rw [Value.freeze, Value.withForm_of_scalar hargument]

theorem plainList_freeze_list (form : Form) (items : List Value) :
    plainList (Value.list form items).freeze = .array (items.map Value.freeze) := by
  rw [Value.freeze, Value.withForm_list]
  rfl

/-! ### Comparisons that do not see the form -/

theorem equal_plainList_freeze (hflat : argument.IsFlat) (w : Value) :
    Value.equal w (plainList argument.freeze) = Value.equal w (plainList argument) := by
  cases argument with
  | list form items =>
    rw [plainList_freeze_list]
    cases w with
    | list _ xs => exact congrArg (_ && ·) (Value.equalItems_map_withForm .frozen hflat xs)
    | _ => rfl
  | object _ members => exact Value.equal_withForm .frozen hflat w
  | _ => rfl

theorem holds?_plainList_freeze_object (r : Relation) (w : Value) (form : Form)
    (members : Members) :
    Value.holds? r w (plainList (Value.object form members).freeze)
      = Value.holds? r w (plainList (.object form members)) :=
  (Value.holds?_object r w _).trans (Value.holds?_object r w members).symm

theorem holds?_plainList_freeze {r : Relation} (hflat : argument.isObject ∨ argument.IsFlat)
    (w : Value) :
    Value.holds? r w (plainList argument.freeze) = Value.holds? r w (plainList argument) := by
  cases argument with
  | list form items =>
    have hitems : ∀ v ∈ items, v.isListFree := hflat.resolve_left (by simp [Value.isObject])
    rw [plainList_freeze_list]
    cases w with
    | list given xs =>
      show (if given = .plain then Value.itemsHold? r xs (items.map Value.freeze) else none)
        = if given = .plain then Value.itemsHold? r xs items else none
      rw [Value.freeze, Value.itemsHold?_map_withForm .frozen hitems]
    | _ => rfl
  | object _ members => exact holds?_plainList_freeze_object r w _ members
  | _ => rfl

/-- *Less than* does not see the form of a last item that nothing comes before. -/
theorem less_map_freeze_iff {form : Form} (hflat : (Value.list form items).IsFlatBeforeLast)
    (xs : List Value) : Value.itemsHold? .less xs (items.map Value.freeze) = some true
      ↔ Value.itemsHold? .less xs items = some true := by
  rcases List.eq_nil_or_concat' items with rfl | ⟨pre, last, rfl⟩
  · exact Iff.rfl
  · obtain ⟨hpre, hlast⟩ := hflat pre last rfl
    rcases hlast with hfree | hleast
    · have hitems : ∀ v ∈ pre ++ [last], v.isListFree :=
        List.forall_mem_append.mpr ⟨hpre, List.forall_mem_singleton.mpr hfree⟩
      rw [Value.freeze, Value.itemsHold?_map_withForm .frozen hitems]
    · obtain ⟨hplain, hfrozen⟩ := Value.isLeast_and_freeze hleast
      rw [List.map_append, List.map_singleton]
      exact Value.less_freeze_append_iff hpre hplain hfrozen xs

theorem less_plainList_freeze (hflat : argument.IsFlatBeforeLast) (w : Value) :
    Value.holds? .less w (plainList argument.freeze) = some true
      ↔ Value.holds? .less w (plainList argument) = some true := by
  cases argument with
  | list form items =>
    rw [plainList_freeze_list]
    cases w with
    | list given xs =>
      show (if given = .plain then Value.itemsHold? .less xs (items.map Value.freeze) else none) = _
        ↔ (if given = .plain then Value.itemsHold? .less xs items else none) = _
      split
      · exact less_map_freeze_iff hflat xs
      · exact Iff.rfl
    | _ => exact Iff.rfl
  | object _ members => rw [holds?_plainList_freeze_object .less w _ members]
  | _ => exact Iff.rfl

/-! ### List operators -/

theorem answer_takesList (hop : op.takesList) (hargument : argument.isContainer) (v : Value) :
    answer op argument v
      = Filter.whenPresent (Filter.convert (typeOf argument) v)
          (Filter.compare (Filter.convert (typeOf argument) v) op
            (.array ((Filter.listItems (plainList argument)).map
              (Filter.convert (typeOf argument))))) := by
  have hplain : (plainList argument).isContainer := (isContainer_plainList argument).trans hargument
  have hregex : op ≠ .regex := by rintro rfl; contradiction
  have hcheck : op.isNullCheck = false := by cases op <;> first | rfl | contradiction
  exact answer_eq_whenPresent hregex hcheck rfl
    (Filter.prepareFilterValue_takesList (Filter.isBlank_of_isContainer hplain) hop) v

theorem listItems_freeze_list (form : Form) (items : List Value) :
    Filter.listItems (plainList (Value.list form items).freeze) = items.map Value.freeze := by
  rw [plainList_freeze_list]
  rfl

/-- Comparing with list-free items does not see their form. -/
theorem compare_takesList_freeze (hop : op.takesList) (type : FieldType)
    (hitems : ∀ v ∈ items, v.isListFree) (w : Value) :
    Filter.compare w op (.array ((items.map Value.freeze).map (Filter.convert type)))
      = Filter.compare w op (.array (items.map (Filter.convert type))) := by
  have hcommute : (items.map Value.freeze).map (Filter.convert type)
      = (items.map (Filter.convert type)).map Value.freeze := by
    rw [List.map_map, List.map_map]
    exact List.map_congr_left fun v _ => Filter.convert_withForm .frozen v
  have hconverted : ∀ v ∈ items.map (Filter.convert type), v.isListFree := by
    intro v hv
    obtain ⟨u, hu, rfl⟩ := List.mem_map.mp hv
    exact Filter.isListFree_convert (hitems u hu)
  have hamong := Filter.isAmong_map_freeze hconverted w
  rw [hcommute]
  cases op with
  | isIn => exact congrArg Except.ok hamong
  | notIn => exact congrArg (fun b => Except.ok !b) hamong
  | _ => contradiction

theorem answer_freeze_takesList (hop : op.takesList) (hobject : ¬ argument.isObject)
    (hflat : argument.IsFlat) (v : Value) :
    answer op argument.freeze v = answer op argument v := by
  cases argument with
  | list form items =>
    have hplain : Filter.listItems (plainList (Value.list form items)) = items := rfl
    rw [answer_takesList hop rfl, answer_takesList hop rfl, listItems_freeze_list, hplain,
      typeOf_freeze, compare_takesList_freeze hop _ hflat]
  | object => exact absurd rfl hobject
  | _ => rfl

/-! ### Patterns -/

theorem answer_regex (argument v : Value) :
    answer .regex argument v
      = Filter.evaluate v (some .regex) (.str (plainList argument).display) := by
  show Filter.evaluate (Filter.convert .string v) (some .regex)
    (Filter.prepareFilterValue .string (some .regex) (.str (plainList argument).display)) = _
  rw [Filter.convert_string, Filter.prepareFilterValue_string rfl]

theorem display_plainList_ne_empty (hargument : argument.isContainer) :
    (plainList argument).display ≠ "" := by
  cases argument with
  | list => simp [plainList, Value.display, Value.literal]
  | object => simp [plainList, Value.display, Value.braced]
  | _ => contradiction

/-- A pattern sees the text of a field only. -/
theorem evaluate_regex {pattern : String} (hpattern : pattern ≠ "") (v : Value) :
    Filter.evaluate v (some .regex) (.str pattern)
      = Filter.whenPresent v (Filter.matchesPattern (.str v.text) (.str pattern)) := by
  have hblank : (Value.str pattern).isBlank = false := beq_eq_false_iff_ne.mpr hpattern
  rw [Filter.evaluate, hblank, Bool.or_false]
  rfl

theorem answer_freeze_regex (hargument : argument.isJson)
    (h : Operator.ReadsFrozen .regex argument) (v : Value) :
    answer .regex argument.freeze v = answer .regex argument v := by
  cases hcontainer : argument.isContainer with
  | true =>
    have hfrozen : argument.freeze.isContainer := Value.isContainer_freeze hcontainer
    rw [answer_regex, answer_regex, evaluate_regex (display_plainList_ne_empty hfrozen),
      evaluate_regex (display_plainList_ne_empty hcontainer), h v.text,
      plainList_of_isJson hargument]
  | false => rw [Value.freeze, Value.withForm_of_scalar hcontainer]

/-! ### What an operator reads correctly -/

theorem strictlyEqual_plainList_freeze (hflat : argument.IsFlat) (w : Value) :
    w.strictlyEqual (plainList argument.freeze) = w.strictlyEqual (plainList argument) := by
  have hbool : (plainList argument.freeze).isBool = (plainList argument).isBool := by
    cases argument <;> rfl
  rw [Value.strictlyEqual, Value.strictlyEqual, hbool, equal_plainList_freeze hflat]

/-- Frozen or not, an argument that the operator does not tell apart compares alike. -/
theorem compare_plainList_freeze (hop : op.comparesWhole) (h : op.ReadsFrozen argument)
    (w : Value) :
    Filter.compare w op (plainList argument.freeze) = Filter.compare w op (plainList argument) := by
  cases op with
  | equals => exact congrArg Except.ok (strictlyEqual_plainList_freeze h w)
  | notEquals => exact congrArg (fun b => Except.ok !b) (strictlyEqual_plainList_freeze h w)
  | greaterThan | greaterThanOrEqual | lessThanOrEqual =>
    exact congrArg (fun o => Except.ok (Option.getD o false)) (holds?_plainList_freeze h w)
  | lessThan =>
    refine congrArg Except.ok (Bool.eq_iff_iff.mpr ?_)
    rw [Filter.related_iff, Filter.related_iff]
    exact less_plainList_freeze h w
  | _ => contradiction

/-- The operators of the query language. -/
theorem cases_of_ofStoreName? {name : String} (h : Operator.ofStoreName? name = some op) :
    op.comparesWhole ∨ op.takesList ∨ op = .regex := by
  obtain ⟨before, after, htable, -⟩ := List.lookup_eq_some_iff.mp h
  have hmem : (name, op) ∈ before ++ (name, op) :: after := by simp
  rw [← htable] at hmem
  simp only [List.mem_cons, Prod.mk.injEq, List.not_mem_nil, or_false] at hmem
  rcases hmem with h | h | h | h | h | h | h | h | h <;> rw [h.2] <;>
    simp [Operator.comparesWhole, Operator.takesList]

/-- No operator of the query language holds of null. -/
theorem holdsOfNull_of_ofStoreName? {name : String} (h : Operator.ofStoreName? name = some op) :
    op.holdsOfNull = false := by
  rcases cases_of_ofStoreName? h with hwhole | hlist | rfl
  · cases op <;> first | rfl | contradiction
  · cases op <;> first | rfl | contradiction
  · rfl

theorem answer_freeze_of_ne_regex {name : String} (hname : Operator.ofStoreName? name = some op)
    (hop : op ≠ .regex) (h : op.ReadsFrozen argument) (v : Value) :
    answer op argument.freeze v = answer op argument v := by
  rcases cases_of_ofStoreName? hname with hwhole | hlist | hregex
  · exact answer_freeze_of_compare hwhole (compare_plainList_freeze hwhole h) v
  · have hparts : ¬ argument.isObject ∧ argument.IsFlat := by
      cases op <;> first | exact h | contradiction
    exact answer_freeze_takesList hlist hparts.1 hparts.2 v
  · exact absurd hregex hop

/-- **The frozen copy of an argument is as good as the argument** where the operator does not tell
them apart. -/
theorem answer_freeze {name : String} (hname : Operator.ofStoreName? name = some op)
    (hargument : argument.isJson) (h : op.ReadsFrozen argument) (v : Value) :
    answer op argument.freeze v = answer op argument v := by
  by_cases hop : op = .regex
  · subst hop
    exact answer_freeze_regex hargument h v
  · exact answer_freeze_of_ne_regex hname hop h v

end Query

end DocView
