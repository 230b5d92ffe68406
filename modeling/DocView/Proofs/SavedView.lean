import DocView.Proofs.Json.RoundTrip
import DocView.Proofs.Query.RoundTrip
import DocView.Proofs.Value.Strings
import DocView.SavedView
import DocView.View

/-!
# Saved views

What is saved of a view are not the objects it was entered with. Conditions and sort keys are read
from these first, with defaults for what is missing, empty or not understood, and what is written
is the object form of what was read. On the way back it is read once more. So a view survives
because reading twice is reading once: a default that was filled in is kept, a type or a direction
is read back from its own name, and a member that was left out is not there the second time either.

The last point is what tells a condition without a value from one whose value is null. The marker
for a value that was never given is never written; in the object form, as in the objects that were
entered, the member is not there.

What JSON itself gives back is not a matter of this module. The values that it does give back are
the assumption here, and the objects that a view was entered with have to be made of them.

## Main definitions

* `SavedView.Survives` - the values that JSON gives back
* `SavedView.reloadConditions`, `SavedView.reloadSortKeys` - saving followed by reading
* `View.runWith` - a view that runs on conditions and sort keys that have been read

## Main results

* `Condition.ofValue_toValue`, `SortKey.ofValue_toValue` - reading twice is reading once
* `SavedView.load_dump` - values that survive are read as they were written
* `SavedView.view_survives` - conditions, sort keys and runs are the same after reloading
-/

namespace DocView

/-! ### Reading what was read -/

theorem Value.orElse_orElse (v default : Value) :
    (v.orElse default).orElse default = v.orElse default := by
  unfold Value.orElse
  split_ifs <;> rfl

theorem Value.elements?_array_orElse (items : List Value) :
    ((Value.array items).orElse (.array [])).elements? = .ok items := by
  cases items <;> rfl

theorem FieldType.ofValue?_name (type : FieldType) : ofValue? (.str type.name) = some type := by
  cases type <;> rfl

namespace Condition

variable {members : Members} {c : Condition}

/-- Conditions in which the defaults are filled in. -/
structure IsFilledIn (c : Condition) : Prop where
  /-- Where the field would be filled in, it is the default. -/
  field : c.field.orElse (.str "") = c.field
  /-- Where the operator would be filled in, it is the default. -/
  operator : c.operator.orElse (.str Operator.equals.name) = c.operator

/-- The condition that an object is read as. -/
def ofMembers (members : Members) : Condition where
  field := (Value.member members "field").orElse (.str "")
  operator := (Value.member members "operator").orElse (.str Operator.equals.name)
  value := (Members.get? members "value").getD .unset
  type := (FieldType.ofValue? (Value.member members "type")).getD .string

theorem ofValue_record (members : Members) : ofValue (.record members) = .ok (ofMembers members) :=
  rfl

theorem isFilledIn_ofMembers (members : Members) : (ofMembers members).IsFilledIn where
  field := Value.orElse_orElse _ _
  operator := Value.orElse_orElse _ _

/-- The members of the object form of a condition. -/
def entries (c : Condition) : Members :=
  [("field", c.field), ("operator", c.operator), ("type", .str c.type.name)]
    ++ if c.value.isUnset then [] else [("value", c.value)]

theorem toValue_eq (c : Condition) : c.toValue = .record c.entries := rfl

theorem nodup_entries (c : Condition) : (Members.names c.entries).Nodup := by
  unfold entries
  split_ifs <;> simp [Members.names]

/-- A value that was given is in the object form. -/
theorem entries_of_isSet (hset : c.value.isUnset = false) :
    c.entries = [("field", c.field), ("operator", c.operator), ("type", .str c.type.name),
      ("value", c.value)] := by
  rw [entries, hset]
  rfl

/-- The value is there in the object form unless it was never given. -/
theorem getD_get?_entries_value (c : Condition) :
    (Members.get? c.entries "value").getD .unset = c.value := by
  obtain ⟨_, _, value, _⟩ := c
  cases value <;> rfl

/-- A condition with its defaults filled in is read back from its object form. -/
theorem ofValue_toValue (hc : c.IsFilledIn) : ofValue c.toValue = .ok c := by
  have htype : FieldType.ofValue? (Value.member c.entries "type") = some c.type :=
    FieldType.ofValue?_name c.type
  have hread : ofMembers c.entries = c := by
    obtain ⟨hfield, hoperator⟩ := hc
    rw [ofMembers, getD_get?_entries_value, htype]
    exact congrArg₂ (fun f op => Condition.mk f op c.value c.type) hfield hoperator
  rw [toValue_eq, ofValue_record, hread]

end Condition

namespace SortKey

variable {key : SortKey}

/-- The sort key that an object is read as. -/
def ofMembers (members : Members) : SortKey where
  field := (Value.member members "field").orElse (.str "")
  direction := .ofValue (Value.member members "direction") .asc
  type? := FieldType.ofValue? (Value.member members "type")

theorem ofValue_record (members : Members) : ofValue (.record members) = .ok (ofMembers members) :=
  rfl

/-- The members of the object form of a sort key. -/
def entries (key : SortKey) : Members :=
  [("field", key.field), ("direction", .str key.direction.name)]
    ++ match key.type? with
      | none => []
      | some type => [("type", .str type.name)]

theorem toValue_eq (key : SortKey) : key.toValue = .record key.entries := rfl

theorem nodup_entries (key : SortKey) : (Members.names key.entries).Nodup := by
  unfold entries
  split <;> simp [Members.names]

/-- A type is read back from its name, and a missing one from there being none. -/
theorem ofValue?_entries_type (key : SortKey) :
    FieldType.ofValue? (Value.member key.entries "type") = key.type? := by
  obtain ⟨_, _, type?⟩ := key
  cases type? with
  | none => rfl
  | some type => exact FieldType.ofValue?_name type

/-- A sort key whose field is filled in is read back from its object form. -/
theorem ofValue_toValue (hfield : key.field.orElse (.str "") = key.field) :
    ofValue key.toValue = .ok key := by
  have hread : ofMembers key.entries = key := by
    rw [ofMembers, ofValue?_entries_type]
    exact congrArg₂ (SortKey.mk · · key.type?) hfield (Direction.ofValue_name key.direction .asc)
  rw [toValue_eq, ofValue_record, hread]

/-- Keys that are read before their types are inferred get the same types as keys that are read
one by one on the way. -/
theorem resolveAll_eq {forms : List Value} {keys : List SortKey}
    (hread : forms.mapM ofValue = .ok keys) (documents : List Value) (window : Value) :
    resolveAll documents window forms = keys.mapM (resolve documents window) := by
  rw [mapM_eq_ok_iff] at hread
  induction hread with
  | nil => rfl
  | cons hkey _ ih =>
    rw [resolveAll, hkey, List.mapM_cons, ih]
    rfl

end SortKey

/-- Runs a view on conditions and sort keys that have been read already. -/
def View.runWith (settings : Settings) (view : View) (conditions : List Condition)
    (sortKeys : List SortKey) (collection : Value) : Result Outcome := do
  let documents ← Argument.documents collection
  let size := view.pageSize.orElse settings.pagination.itemsPerPage
  let (matched, warnings) ← (FilterSet.mk conditions (.ofValue view.logic)).apply (.array documents)
  let keys ← sortKeys.mapM (SortKey.resolve documents settings.engine.typeSample)
  let ordered ← Sorting.documents matched keys
  let items ← Page.ofList ordered view.page size
  let page ← Page.infoOf (.int ordered.length) view.page size
  let fields ← Fields.user (.array documents) settings.engine.internalPrefix
    settings.engine.fieldSample
  .ok {
    items := items
    fields := fields
    page := page
    scanned := documents.length
    matched := matched.length
    total := ordered.length
    warnings := warnings }

/-- A view runs on what its conditions and its sort keys are read as. -/
theorem View.run_eq_runWith {view : View} {conditions : List Condition} {keys : List SortKey}
    {conditionForms keyForms : List Value}
    (hconditions : conditionForms.mapM Condition.ofValue = .ok conditions)
    (hkeys : keyForms.mapM SortKey.ofValue = .ok keys)
    (settings : Settings) (collection : Value) :
    { view with conditions := .array conditionForms, sortKeys := .array keyForms }.run settings
        collection
      = view.runWith settings conditions keys collection := by
  have hpassing : ∀ documents,
      { view with conditions := .array conditionForms, sortKeys := .array keyForms }.passing
          documents
        = (FilterSet.mk conditions (.ofValue view.logic)).apply (.array documents) := by
    intro documents
    have hset : FilterSet.ofConditions (.array conditionForms) view.logic
        = .ok ⟨conditions, .ofValue view.logic⟩ := by
      rw [FilterSet.ofConditions, Value.elements?_array_orElse]
      exact bind_eq_ok.mpr ⟨_, rfl, bind_eq_ok.mpr ⟨_, hconditions, rfl⟩⟩
    rw [passing, hset]
    rfl
  have hresolved : ∀ documents,
      { view with conditions := .array conditionForms, sortKeys := .array keyForms }.keys settings
          documents
        = keys.mapM (SortKey.resolve documents settings.engine.typeSample) := by
    intro documents
    rw [← SortKey.resolveAll_eq hkeys, View.keys, Value.elements?_array_orElse]
    rfl
  simp only [run, runWith, hpassing, hresolved]

namespace SavedView

/-! ### Values that survive -/

/-- The values that JSON gives back: data whose doubles are read as they were written and whose
integers are short enough to be written. -/
structure Survives (v : Value) : Prop where
  /-- The value is data, and its doubles are read as they were written. -/
  data : v.IsData Json.ReadsDouble
  /-- Nothing in the value is refused. -/
  writable : Json.unwritable? v = none

variable {v default : Value} {items : List Value} {members : Members} {name : String}

theorem survives_str (s : String) : Survives (.str s) := ⟨.str s, by rw [Json.unwritable?]⟩

theorem survives_null : Survives .null := ⟨.null, by rw [Json.unwritable?]⟩

theorem survives_array_iff : Survives (.array items) ↔ ∀ v ∈ items, Survives v := by
  constructor
  · rintro ⟨hdata, hwritable⟩ v hv
    rw [Json.unwritable?, Json.unwritableItem?_eq_none_iff] at hwritable
    cases hdata with
    | list hitems => exact ⟨hitems v hv, hwritable v hv⟩
  · intro h
    refine ⟨.list fun v hv => (h v hv).data, ?_⟩
    rw [Json.unwritable?, Json.unwritableItem?_eq_none_iff]
    exact fun v hv => (h v hv).writable

theorem survives_record_iff : Survives (.record members) ↔
    (Members.names members).Nodup ∧ ∀ entry ∈ members, Survives entry.2 := by
  constructor
  · rintro ⟨hdata, hwritable⟩
    rw [Json.unwritable?, Json.unwritableMember?_eq_none_iff] at hwritable
    cases hdata with
    | object hdistinct hmembers =>
      exact ⟨hdistinct, fun entry hentry => ⟨hmembers entry hentry, hwritable entry hentry⟩⟩
  · rintro ⟨hdistinct, h⟩
    refine ⟨.object hdistinct fun entry hentry => (h entry hentry).data, ?_⟩
    rw [Json.unwritable?, Json.unwritableMember?_eq_none_iff]
    exact fun entry hentry => (h entry hentry).writable

theorem Survives.get? (h : Survives (.record members)) (hget : Members.get? members name = some v) :
    Survives v :=
  (survives_record_iff.mp h).2 _ (Members.mem_of_get? hget)

theorem Survives.member (h : Survives (.record members)) (name : String) :
    Survives (Value.member members name) := by
  unfold Value.member
  cases hget : Members.get? members name with
  | none => exact survives_null
  | some v => exact h.get? hget

theorem Survives.orElse (hv : Survives v) (hdefault : Survives default) :
    Survives (v.orElse default) := by
  unfold Value.orElse
  split_ifs
  · exact hv
  · exact hdefault

/-- The object form of a condition survives if its parts do. -/
theorem survives_toValue {c : Condition} (hfield : Survives c.field)
    (hoperator : Survives c.operator) (hvalue : c.value.isUnset = false → Survives c.value) :
    Survives c.toValue := by
  rw [Condition.toValue_eq, survives_record_iff]
  refine ⟨Condition.nodup_entries _, ?_⟩
  unfold Condition.entries
  cases hset : c.value.isUnset with
  | true => simp [hfield, hoperator, survives_str]
  | false => simp [hfield, hoperator, survives_str, hvalue hset]

/-- What is read from an object that survives has an object form that survives. -/
theorem Survives.condition (h : Survives (.record members)) :
    Survives (Condition.ofMembers members).toValue := by
  refine survives_toValue ((h.member "field").orElse (survives_str ""))
    ((h.member "operator").orElse (survives_str _)) fun hset => ?_
  cases hget : Members.get? members "value" with
  | none => simp [Condition.ofMembers, hget, Value.isUnset] at hset
  | some v => simpa [Condition.ofMembers, hget] using h.get? hget

theorem Survives.sortKey (h : Survives (.record members)) :
    Survives (SortKey.ofMembers members).toValue := by
  have hfield : Survives (SortKey.ofMembers members).field :=
    (h.member "field").orElse (survives_str "")
  rw [SortKey.toValue_eq, survives_record_iff]
  refine ⟨SortKey.nodup_entries _, ?_⟩
  unfold SortKey.entries
  cases (SortKey.ofMembers members).type? with
  | none => simp [hfield, survives_str]
  | some type => simp [hfield, survives_str]

/-! ### Saving and reading -/

/-- Objects that survive are read as they were written. -/
theorem load_dump (hobjects : ∀ v ∈ items, v.isObject) (h : ∀ v ∈ items, Survives v)
    (what : String) : ∃ text, dump items = .ok text ∧ objects what (.str text) = .ok items := by
  obtain ⟨hdata, hwritable⟩ := survives_array_iff.mpr h
  refine ⟨Json.render .spaced (.array items), ?_, ?_⟩
  · rw [dump, Json.write?, hwritable]
  · have hread : Json.read (Json.render .spaced (.array items)) = .ok (.array items) := by
      have hsame : (Value.array items).mapTexts id = .array items :=
        Value.mapTexts_eq_self fun _ _ => rfl
      have hmapped := Json.read_render_mapTexts Json.Style.readable_spaced hdata hwritable id
      rwa [hsame, Value.merged_eq_self hdata] at hmapped
    have htruthy : (Value.str (Json.render .spaced (.array items))).truthy = true := by
      obtain ⟨c, more, hchars, -⟩ := Json.startsValue_renderAt .spaced 0 (.array items)
      have hne : Json.render .spaced (.array items) ≠ "" := by
        intro hempty
        rw [← Json.render, hempty] at hchars
        cases hchars
      simpa [Value.truthy] using hne
    simp [objects, htruthy, hread, List.all_eq_true.mpr hobjects]

variable {α : Type} {read : Value → Result α} {form : α → Value} {xs : List α}

/-- Things that are read back from their object forms are the same after saving, as long as these
forms survive. -/
theorem bind_objects_dump (hobject : ∀ x ∈ xs, (form x).isObject)
    (hread : ∀ x ∈ xs, read (form x) = .ok x) (h : ∀ x ∈ xs, Survives (form x)) (what : String) :
    (do (← objects what (.str (← dump (xs.map form)))).mapM read) = .ok xs := by
  obtain ⟨text, hdump, hload⟩ := load_dump (List.forall_mem_map.mpr hobject)
    (List.forall_mem_map.mpr h) what
  have hforms : (xs.map form).mapM read = .ok xs := by
    rw [List.mapM_map]
    exact (mapM_eq_ok hread).trans (congrArg Except.ok (List.map_id xs))
  exact bind_eq_ok.mpr ⟨text, hdump, bind_eq_ok.mpr ⟨_, hload, hforms⟩⟩

/-- Saves conditions and reads them again. -/
def reloadConditions (v : Value) : Result (List Condition) := do
  loadConditions (.str (← dumpConditions v))

/-- Saves sort keys and reads them again. -/
def reloadSortKeys (v : Value) : Result (List SortKey) := do
  loadSortKeys (.str (← dumpSortKeys v))

variable {forms : List Members}

theorem mapM_condition_ofValue (forms : List Members) :
    (forms.map .record).mapM Condition.ofValue = .ok (forms.map Condition.ofMembers) := by
  rw [List.mapM_map]
  exact mapM_eq_ok fun form _ => Condition.ofValue_record form

theorem mapM_sortKey_ofValue (forms : List Members) :
    (forms.map .record).mapM SortKey.ofValue = .ok (forms.map SortKey.ofMembers) := by
  rw [List.mapM_map]
  exact mapM_eq_ok fun form _ => SortKey.ofValue_record form

theorem reloadConditions_eq (h : ∀ form ∈ forms, Survives (.record form)) :
    reloadConditions (.array (forms.map .record)) = .ok (forms.map Condition.ofMembers) := by
  have hdump : dumpConditions (.array (forms.map .record))
      = dump ((forms.map Condition.ofMembers).map Condition.toValue) := by
    show ((forms.map .record).mapM Condition.ofValue >>= fun cs =>
      dump (cs.map Condition.toValue)) = _
    rw [mapM_condition_ofValue]
    rfl
  rw [reloadConditions, hdump]
  refine bind_objects_dump (List.forall_mem_map.mpr fun _ _ => rfl) ?_ ?_ "filters"
  · exact List.forall_mem_map.mpr fun form _ =>
      Condition.ofValue_toValue (Condition.isFilledIn_ofMembers form)
  · exact List.forall_mem_map.mpr fun form hform => (h form hform).condition

theorem reloadSortKeys_eq (h : ∀ form ∈ forms, Survives (.record form)) :
    reloadSortKeys (.array (forms.map .record)) = .ok (forms.map SortKey.ofMembers) := by
  have hdump : dumpSortKeys (.array (forms.map .record))
      = dump ((forms.map SortKey.ofMembers).map SortKey.toValue) := by
    show ((forms.map .record).mapM SortKey.ofValue >>= fun keys =>
      dump (keys.map SortKey.toValue)) = _
    rw [mapM_sortKey_ofValue]
    rfl
  rw [reloadSortKeys, hdump]
  refine bind_objects_dump (List.forall_mem_map.mpr fun _ _ => rfl) ?_ ?_ "sort keys"
  · exact List.forall_mem_map.mpr fun form _ => SortKey.ofValue_toValue (Value.orElse_orElse _ _)
  · exact List.forall_mem_map.mpr fun form hform => (h form hform).sortKey

/-- How the value of a condition stands to the object that it was read from. -/
structure ValueOf (form : Members) (c : Condition) : Prop where
  /-- No value was given exactly if there is no such member. -/
  unset : c.value = .unset ↔ Members.get? form "value" = none
  /-- A value that was given is the member, and null is a value like any other. -/
  given : ∀ v, Members.get? form "value" = some v → c.value = v

theorem valueOf_ofMembers {form : Members} (h : Survives (.record form)) :
    ValueOf form (Condition.ofMembers form) := by
  have hvalue : (Condition.ofMembers form).value = (Members.get? form "value").getD .unset := rfl
  constructor
  · rw [hvalue]
    constructor
    · intro hunset
      cases hget : Members.get? form "value" with
      | none => rfl
      | some v =>
        rw [hget, Option.getD_some] at hunset
        subst hunset
        cases (h.get? hget).data
    · intro hget
      rw [hget, Option.getD_none]
  · intro v hget
    rw [hvalue, hget, Option.getD_some]

/-- **A saved view survives.** Let the conditions and the sort keys of a view be objects that JSON
gives back, with any members and any values in them. They are read, and reading them again after
they were saved gives the same conditions and the same sort keys. A condition is without a value
after that if and only if its object is, and null remains null. So the view shows of every
collection, under all settings, what it shows if it runs on the conditions and the sort keys that
were saved. -/
theorem view_survives (conditionForms keyForms : List Members)
    (hconditions : ∀ form ∈ conditionForms, Survives (.record form))
    (hkeys : ∀ form ∈ keyForms, Survives (.record form)) :
    ∃ conditions keys,
      (conditionForms.map .record).mapM Condition.ofValue = .ok conditions ∧
      reloadConditions (.array (conditionForms.map .record)) = .ok conditions ∧
      List.Forall₂ ValueOf conditionForms conditions ∧
      (keyForms.map .record).mapM SortKey.ofValue = .ok keys ∧
      reloadSortKeys (.array (keyForms.map .record)) = .ok keys ∧
      ∀ (settings : Settings) (view : View) (collection : Value),
        { view with conditions := .array (conditionForms.map .record),
                    sortKeys := .array (keyForms.map .record) }.run settings collection
          = view.runWith settings conditions keys collection := by
  refine ⟨conditionForms.map Condition.ofMembers, keyForms.map SortKey.ofMembers,
    mapM_condition_ofValue conditionForms, reloadConditions_eq hconditions, ?_,
    mapM_sortKey_ofValue keyForms, reloadSortKeys_eq hkeys, ?_⟩
  · rw [List.forall₂_map_right_iff, List.forall₂_same]
    exact fun form hform => valueOf_ofMembers (hconditions form hform)
  · exact fun settings view collection => View.run_eq_runWith (mapM_condition_ofValue _)
      (mapM_sortKey_ofValue _) settings collection

/-- A condition of nothing at all and one on null, and sort keys with a direction and a type that
are not known. -/
theorem view_survives_totals :
    let conditionForms : List Members :=
      [[], [("field", .str "total"), ("operator", .null), ("type", .str " NUMBER"),
        ("value", .null)]]
    let keyForms : List Members :=
      [[("field", .str "total"), ("direction", .str "Descending")],
        [("field", .str "due"), ("direction", .int 1), ("type", .str "money")]]
    (∀ form ∈ conditionForms, Survives (.record form)) ∧
      (∀ form ∈ keyForms, Survives (.record form)) ∧
      reloadConditions (.array (conditionForms.map .record)) = .ok
        [⟨.str "", .str "equals", .unset, .string⟩,
          ⟨.str "total", .str "equals", .null, .number⟩] ∧
      reloadSortKeys (.array (keyForms.map .record)) = .ok
        [⟨.str "total", .desc, none⟩, ⟨.str "due", .asc, some .string⟩] := by
  intro conditionForms keyForms
  have hconditions : ∀ form ∈ conditionForms, Survives (.record form) := by
    simp [-Prod.forall, conditionForms, survives_record_iff, Members.names, survives_str,
      survives_null]
  have hkeys : ∀ form ∈ keyForms, Survives (.record form) := by
    have hone : Survives (.int 1) := ⟨.int 1, by decide⟩
    simp [-Prod.forall, keyForms, survives_record_iff, Members.names, survives_str, hone]
  obtain ⟨conditions, keys, hread, hreloaded, -, hreadKeys, hreloadedKeys, -⟩ :=
    view_survives conditionForms keyForms hconditions hkeys
  obtain rfl := Except.ok.inj hread
  obtain rfl := Except.ok.inj hreadKeys
  exact ⟨hconditions, hkeys, hreloaded, hreloadedKeys⟩

end SavedView

end DocView
