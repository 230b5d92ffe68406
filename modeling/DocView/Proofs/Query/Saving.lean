import DocView.Proofs.Json.Reread
import DocView.Proofs.Query.Thawing

/-!
# Saving the conditions of a query

The conditions that a query stands for can be saved like those of a view, as a JSON list of their
object forms. They come out of a frozen selector, and that shows in two ways.

* A read-only object is foreign to JSON. All objects of the selector are read-only, so if there is
  one in the value of a condition, at any depth, then nothing is saved.
* Lists are written alike in both forms, and all of them come back plain. So the conditions that are
  read again are the thawed ones, and what they select is the same if they survive thawing.

Nothing else gets lost, and nothing has to be assumed for that: the values come from a text, and
what the reader of JSON has made it reads again, even a double that is none of JSON.

## Main definitions

* `Query.saved`
* `Query.FromRead` - the conditions of queries from texts
* `Query.Saves` - what becomes of the conditions of a query

## Main results

* `Query.loadConditions_saved`, `Query.saved_eq_error`
* `Query.saves_of_ofText`
-/

namespace DocView

namespace Condition

variable {c : Condition}

/-- Names can be written, so what stands in the way of a condition is in its value. -/
theorem unwritable?_toValue (hc : c.IsNamed) (hset : c.value.isUnset = false) :
    Json.unwritable? c.toValue = Json.unwritable? c.value := by
  obtain ⟨field, op, hfield, hop⟩ := hc
  rw [toValue_eq, entries_of_isSet hset, hfield, hop, Value.record, Json.unwritable?]
  simp [Json.unwritableMember?, Json.unwritable?]

/-- A condition is written as its thawed copy if its value is. -/
theorem renderAt_toValue_thawed {style : Json.Style} (hset : c.value.isUnset = false)
    (hvalue : ∀ depth, Json.renderAt style depth c.value.thaw = Json.renderAt style depth c.value)
    (depth : Nat) :
    Json.renderAt style depth c.thawed.toValue = Json.renderAt style depth c.toValue := by
  have hset' : c.thawed.value.isUnset = false := (Value.isUnset_withForm .plain c.value).trans hset
  rw [toValue_eq, toValue_eq, entries_of_isSet hset, entries_of_isSet hset', Value.record,
    Value.record, Json.renderAt, Json.renderAt, Json.renderMembers_eq_map,
    Json.renderMembers_eq_map]
  simp only [List.map_cons, List.map_nil, thawed, hvalue]

end Condition

namespace Query

variable {c : Condition} {cs : List Condition} {q : Query} {s : String} {limit : Value}

/-- The conditions of a query, saved. -/
def saved (q : Query) : Result String := SavedView.dump (q.conditions.map Condition.toValue)

/-! ### The conditions of queries from texts -/

/-- The conditions that frozen selectors stand for which were read from texts. -/
abbrev FromRead (c : Condition) : Prop := FromArgument Json.IsRead c

/-- The conditions of a query from a text are of this kind. -/
theorem fromRead_of_mem (h : ofText s limit = .ok q) : ∀ c ∈ q.conditions, FromRead c := by
  obtain ⟨selector, hread, hfrozen, -⟩ := exists_selector_of_ofText h
  intro c hc
  rw [conditions, hfrozen] at hc
  refine fromArgument_of_mem (fun form members hobject => ?_) hread hc
  cases hobject with
  | object _ parts => exact parts

theorem unwritable?_plainList (v : Value) :
    Json.unwritable? (plainList v) = Json.unwritable? v := by
  cases v with
  | list form items => rw [plainList, Json.unwritable?, Json.unwritable?]
  | _ => rfl

namespace FromRead

theorem isRead_thaw (h : FromRead c) : Json.IsRead c.value.thaw :=
  h.given_thaw (fun _ hv => hv.isData.thaw_freeze) (.bool true) .str

theorem isUnset_value (h : FromRead c) : c.value.isUnset = false :=
  (Value.isUnset_withForm .plain c.value).symm.trans h.isRead_thaw.isData.isUnset_eq_false

/-- What stands in the way of saving is found in the frozen copy. -/
theorem unwritable?_toValue (h : FromRead c) :
    Json.unwritable? c.toValue = Json.unwritable? c.value.thaw.freeze :=
  (Condition.unwritable?_toValue h.isNamed h.isUnset_value).trans
    ((congrArg Json.unwritable? h.value_eq).trans (unwritable?_plainList _))

/-- A condition can be saved exactly if there is no object in its value. -/
theorem unwritable?_eq_none_iff (h : FromRead c) :
    Json.unwritable? c.toValue = none ↔ c.value.isObjectFree := by
  rw [h.unwritable?_toValue, Json.unwritable?_freeze_eq_none_iff h.isRead_thaw, Value.thaw,
    Value.isObjectFree_withForm]

/-- The thawed condition can be saved and is read again. -/
theorem survives_thawed (h : FromRead c) : SavedView.Survives c.thawed.toValue := by
  obtain ⟨field, op, hfield, hop⟩ := h.isNamed.thawed
  refine SavedView.survives_toValue ?_ ?_ fun _ => ?_
  · rw [hfield]
    exact SavedView.survives_str field
  · rw [hop]
    exact SavedView.survives_str op.name
  · exact ⟨h.isRead_thaw.isData_readsDouble, h.isRead_thaw.unwritable?_eq_none⟩

end FromRead

/-! ### Saving and reading -/

/-- Conditions without objects are saved as their thawed copies are. -/
theorem dump_eq_dump_thawed (hcs : ∀ c ∈ cs, FromRead c) (hfree : ∀ c ∈ cs, c.value.isObjectFree) :
    SavedView.dump (cs.map Condition.toValue)
      = SavedView.dump ((cs.map Condition.thawed).map Condition.toValue) := by
  have hwritable : Json.unwritable? (.array (cs.map Condition.toValue)) = none := by
    rw [Value.array, Json.unwritable?, Json.unwritableItem?_eq_none_iff]
    exact List.forall_mem_map.mpr fun c hc => (hcs c hc).unwritable?_eq_none_iff.mpr (hfree c hc)
  have hwritable' :
      Json.unwritable? (.array ((cs.map Condition.thawed).map Condition.toValue)) = none := by
    rw [Value.array, Json.unwritable?, Json.unwritableItem?_eq_none_iff]
    exact List.forall_mem_map.mpr
      (List.forall_mem_map.mpr fun c hc => (hcs c hc).survives_thawed.writable)
  have hrender : Json.render .spaced (.array (cs.map Condition.toValue))
      = Json.render .spaced (.array ((cs.map Condition.thawed).map Condition.toValue)) := by
    rw [Json.render, Json.render, Value.array, Value.array, Json.renderAt, Json.renderAt,
      Json.renderItems_eq_map, Json.renderItems_eq_map, List.map_map, List.map_map, List.map_map]
    refine congrArg _ (List.map_congr_left fun c hc => ?_)
    exact (Condition.renderAt_toValue_thawed (hcs c hc).isUnset_value
      (Json.renderAt_thaw (hfree c hc)) _).symm
  rw [SavedView.dump, SavedView.dump, Json.write?, Json.write?, hwritable, hwritable', hrender]

/-- **Conditions without objects are saved, and read again with plain lists.** -/
theorem loadConditions_saved (hcs : ∀ c ∈ cs, FromRead c)
    (hfree : ∀ c ∈ cs, c.value.isObjectFree) :
    ∃ text, SavedView.dump (cs.map Condition.toValue) = .ok text ∧
      SavedView.loadConditions (.str text) = .ok (cs.map Condition.thawed) := by
  rw [dump_eq_dump_thawed hcs hfree]
  refine bind_eq_ok.mp (SavedView.bind_objects_dump ?_ ?_ ?_ "filters")
  · exact fun c _ => rfl
  · exact List.forall_mem_map.mpr fun c hc =>
      Condition.ofValue_toValue (hcs c hc).isNamed.thawed.isFilledIn
  · exact List.forall_mem_map.mpr fun c hc => (hcs c hc).survives_thawed

/-- **If there is an object in a value, nothing is saved.** -/
theorem saved_eq_error (hcs : ∀ c ∈ cs, FromRead c)
    (hobject : ∃ c ∈ cs, c.value.isObjectFree = false) :
    SavedView.dump (cs.map Condition.toValue) = .error (.notRenderable "mappingproxy") := by
  have hpart : ∃ members, Json.unwritable? (.array (cs.map Condition.toValue))
      = some (.object .frozen members) := by
    cases hfound : Json.unwritable? (.array (cs.map Condition.toValue)) with
    | none =>
      rw [Value.array, Json.unwritable?, Json.unwritableItem?_eq_none_iff,
        List.forall_mem_map] at hfound
      obtain ⟨c, hc, hvalue⟩ := hobject
      have hfree := (hcs c hc).unwritable?_eq_none_iff.mp (hfound c hc)
      exact absurd (hvalue.symm.trans hfree) Bool.false_ne_true
    | some part =>
      -- The first part that cannot be written is found in one of the conditions.
      rw [Value.array, Json.unwritable?, Json.unwritableItem?_eq_findSome?] at hfound
      obtain ⟨form, hform, hpart⟩ := List.exists_of_findSome?_eq_some hfound
      obtain ⟨c, hc, rfl⟩ := List.mem_map.mp hform
      rw [(hcs c hc).unwritable?_toValue] at hpart
      obtain ⟨members, rfl⟩ := Json.isObject_of_unwritable?_freeze (hcs c hc).isRead_thaw hpart
      exact ⟨members, rfl⟩
  obtain ⟨members, hmembers⟩ := hpart
  rw [SavedView.dump, Json.write?, hmembers]
  rfl

/-! ### What is selected -/

/-- **What becomes of the conditions of a query** that are saved and read again. -/
structure Saves (q : Query) : Prop where
  /-- Without objects in their values, they are read again with plain lists. -/
  loaded : (∀ c ∈ q.conditions, c.value.isObjectFree) → ∃ text, q.saved = .ok text ∧
    SavedView.loadConditions (.str text) = .ok (q.conditions.map Condition.thawed)
  /-- An object is refused. -/
  refused : (∃ c ∈ q.conditions, c.value.isObjectFree = false) →
    q.saved = .error (.notRenderable "mappingproxy")
  /-- If all of them survive, the same documents are selected of every collection. -/
  alike : (∀ c ∈ q.conditions, c.SurvivesThawing) → ∀ logic documents,
    (FilterSet.apply ⟨q.conditions, logic⟩ documents).map Prod.fst
      = (FilterSet.apply ⟨q.conditions.map Condition.thawed, logic⟩ documents).map Prod.fst
  /-- One that does not survive selects, alone, what it did not select of a single document, or the
  other way around. -/
  toldApart : ∀ c ∈ q.conditions, c.value.thaw.isJson → ¬ c.SurvivesThawing →
    ∃ document : Value, document.isJson ∧ ∀ logic,
      (FilterSet.apply ⟨[c], logic⟩ (.array [document])).map Prod.fst
        ≠ (FilterSet.apply ⟨[c.thawed], logic⟩ (.array [document])).map Prod.fst

theorem FromRead.exists_document (h : FromRead c) (hjson : c.value.thaw.isJson)
    (hsurvives : ¬ c.SurvivesThawing) :
    ∃ document : Value, document.isJson ∧ ∀ logic,
      (FilterSet.apply ⟨[c], logic⟩ (.array [document])).map Prod.fst
        ≠ (FilterSet.apply ⟨[c.thawed], logic⟩ (.array [document])).map Prod.fst := by
  obtain ⟨document, kept, hdocument, haccepts, haccepts'⟩ :=
    h.exists_told_apart (fun _ hv => hv.isData.thaw_freeze) hjson hsurvives
  refine ⟨document, hdocument, fun logic hsame => ?_⟩
  have hboth := FilterSet.accepts_eq_of_apply_singleton h.isNamed.isKnown h.isNamed.thawed.isKnown
    hsame
  rw [haccepts, haccepts'] at hboth
  cases kept <;> contradiction

/-- **Saving the conditions of a query from a text.** Let a text be a query. If no condition of the
query has an object in its value, they are saved, and what is read again are the conditions with
plain lists; otherwise nothing is saved. If all of the conditions survive thawing, then those with
plain lists select the same documents of every collection under either logic. And a condition that
does not survive, and has a value of JSON, says the opposite of some document of JSON. -/
theorem saves_of_ofText (h : ofText s limit = .ok q) : q.Saves where
  loaded hfree := loadConditions_saved (fromRead_of_mem h) hfree
  refused hobject := saved_eq_error (fromRead_of_mem h) hobject
  alike hsurvives logic documents := by
    refine congrArg (Except.map Prod.fst) (FilterSet.apply_congr ?_ logic documents)
    refine List.forall₂_map_right_iff.mpr (List.forall₂_same.mpr fun c hc => ?_)
    exact (fromRead_of_mem h c hc).alike_thawed (fun _ hv => hv.isData.thaw_freeze)
      (fun _ hv => (Json.IsRead.isData hv).isUnset_eq_false) (hsurvives c hc)
  toldApart c hc hjson hsurvives := (fromRead_of_mem h c hc).exists_document hjson hsurvives

/-- A test for equality with a list of texts is read again and selects the same; one for equality
with an object cannot be saved. -/
theorem saves_of_ofText_tags :
    (∃ (q : Query) (text : String) (loaded : List Condition),
      Query.ofText "\x7b\"tags\": [\"x\", \"y\"]\x7d" (.int 25) = .ok q ∧ q.saved = .ok text ∧
      SavedView.loadConditions (.str text) = .ok loaded ∧ ∀ logic documents,
        (FilterSet.apply ⟨q.conditions, logic⟩ documents).map Prod.fst
          = (FilterSet.apply ⟨loaded, logic⟩ documents).map Prod.fst) ∧
    ∃ q : Query, Query.ofText "\x7b\"a\": \x7b\"$eq\": \x7b\"x\": 1\x7d\x7d\x7d" (.int 25) = .ok q ∧
      q.saved = .error (.notRenderable "mappingproxy") := by
  constructor
  · have hchecked : ((Query.ofText "\x7b\"tags\": [\"x\", \"y\"]\x7d" (.int 25)).toOption.map
        fun q => q.conditions.all fun c => c.operator? = some .equals ∧ c.value.isObjectFree ∧
          c.value.thaw.IsFlat) = some true := by decide +kernel
    obtain ⟨q, hq, hall⟩ := Option.map_eq_some_iff.mp hchecked
    have hquery := toOption_eq_some.mp hq
    have hconditions : ∀ c ∈ q.conditions, c.operator? = some .equals ∧ c.value.isObjectFree ∧
        c.value.thaw.IsFlat := fun c hc => of_decide_eq_true (List.all_eq_true.mp hall c hc)
    have hsurvives : ∀ c ∈ q.conditions, c.SurvivesThawing := by
      intro c hc _ op hop
      obtain rfl := Option.some.inj ((hconditions c hc).1.symm.trans hop)
      exact (hconditions c hc).2.2
    obtain ⟨text, hsaved, hloaded⟩ :=
      (saves_of_ofText hquery).loaded fun c hc => (hconditions c hc).2.1
    exact ⟨q, text, _, hquery, hsaved, hloaded, (saves_of_ofText hquery).alike hsurvives⟩
  · have hchecked : ((Query.ofText "\x7b\"a\": \x7b\"$eq\": \x7b\"x\": 1\x7d\x7d\x7d"
        (.int 25)).toOption.map fun q => q.conditions.any fun c => c.value.isObjectFree = false)
        = some true := by decide +kernel
    obtain ⟨q, hq, hany⟩ := Option.map_eq_some_iff.mp hchecked
    have hquery := toOption_eq_some.mp hq
    obtain ⟨c, hc, hobject⟩ := List.any_eq_true.mp hany
    exact ⟨q, hquery, (saves_of_ofText hquery).refused ⟨c, hc, of_decide_eq_true hobject⟩⟩

/-- A list inside of a list: the conditions of the query can be saved and read again, and select a
document then that they did not select before. -/
theorem not_loaded_alike_nested :
    ¬ ∀ (s : String) (q : Query), Query.ofText s (.int 25) = .ok q →
      ∃ text loaded, q.saved = .ok text ∧ SavedView.loadConditions (.str text) = .ok loaded ∧
        ∀ documents : List Value, (∀ d ∈ documents, d.isJson) →
          (FilterSet.apply ⟨q.conditions, .and⟩ (.array documents)).map Prod.fst
            = (FilterSet.apply ⟨loaded, .and⟩ (.array documents)).map Prod.fst := by
  intro h
  let document : Value := .record [("a", .array [.array [.str "x"]])]
  let count (r : Result (List Value)) : Option Nat := r.toOption.map List.length
  let selected (cs : List Condition) : Result (List Value) :=
    (FilterSet.apply ⟨cs, .and⟩ (.array [document])).map Prod.fst
  have hchecked : ((Query.ofText "\x7b\"a\": [[\"x\"]]\x7d" (.int 25)).toOption.map fun q =>
      (q.conditions.all fun c => c.value.isObjectFree, count (selected q.conditions),
        count (selected (q.conditions.map Condition.thawed)))) = some (true, some 0, some 1) := by
    decide +kernel
  obtain ⟨q, hq, hfound⟩ := Option.map_eq_some_iff.mp hchecked
  have hquery := toOption_eq_some.mp hq
  obtain ⟨hfree, hcounts⟩ := Prod.mk.inj hfound
  obtain ⟨hbefore, hafter⟩ := Prod.mk.inj hcounts
  obtain ⟨text, hsaved, hread⟩ :=
    loadConditions_saved (fromRead_of_mem hquery) (List.all_eq_true.mp hfree)
  obtain ⟨text', loaded, hsaved', hread', hsame⟩ := h _ q hquery
  obtain rfl : text = text' := Except.ok.inj (hsaved.symm.trans hsaved')
  obtain rfl := Except.ok.inj (hread.symm.trans hread')
  have hequal : selected q.conditions = selected (q.conditions.map Condition.thawed) :=
    hsame [document] (by decide)
  have hcount : some 0 = some 1 := hbefore.symm.trans ((congrArg count hequal).trans hafter)
  exact absurd hcount (by decide)

end Query

end DocView
