import DocView.Proofs.Result
import DocView.Proofs.Value.Form
import DocView.Query.Builder
import DocView.Query.Parse

/-!
# Queries survive their object form

A query is saved as a plain object and read back by the parser for objects that people write. The
two do not mirror each other: the writer leaves out what was not asked for and thaws the selector,
while the reader supplies defaults, drops what it does not understand, spells keys as names and
freezes again. They agree on *canonical* queries only: those with a frozen selector whose names
are distinct, a limit of at least one, and fields that are names.

Both ways of making a query make canonical ones. That is where the defaults come in: a limit that
is missing or too small becomes the default, so the default itself has to be at least one.

## Main definitions

* `Query.IsCanonical`

## Main results

* `Query.IsCanonical.parse_toValue` - a canonical query is read back as itself
* `Query.isCanonical_of_parse`, `Query.isCanonical_of_build`
* `Query.parse_toValue_roundTrip`
-/

namespace DocView

/-- A direction is read back from its token. -/
theorem Direction.ofValue_name (direction default : Direction) :
    ofValue (.str direction.name) default = direction := by
  cases direction <;> rfl

namespace Query

/-- The queries that the writer and the reader agree on. -/
structure IsCanonical (q : Query) : Prop where
  /-- Every container of the selector is frozen. -/
  frozen : Value.withFormMembers .frozen q.selector = q.selector
  /-- No name comes twice in the selector. -/
  distinct : (Members.names q.selector).Nodup
  /-- The limit is an integer of at least one. -/
  limit : ∃ n : Int, 1 ≤ n ∧ q.limit = .int n
  /-- Every field is a text that is not empty. -/
  fields : ∀ f ∈ q.fields, isFieldName f

/-! ### Writing -/

/-- The members of the object form. -/
def entries (q : Query) : Members :=
  [("selector", q.plainSelector), ("limit", q.limit)]
    ++ (if q.fields.isEmpty then [] else [("fields", .array q.fields)])
    ++ if q.sort.isEmpty then [] else [("sort", .array (q.sort.map sortEntry))]

theorem toValue_eq (q : Query) : q.toValue = .record q.entries := rfl

theorem get?_entries_selector (q : Query) :
    Members.get? q.entries "selector" = some q.plainSelector := rfl

theorem member_entries_limit (q : Query) : Value.member q.entries "limit" = q.limit := rfl

theorem member_entries_fields (q : Query) :
    Value.member q.entries "fields" = if q.fields.isEmpty then .null else .array q.fields := by
  unfold entries Value.member
  cases q.fields <;> cases q.sort <;> rfl

theorem member_entries_sort (q : Query) :
    Value.member q.entries "sort"
      = if q.sort.isEmpty then .null else .array (q.sort.map sortEntry) := by
  unfold entries Value.member
  cases q.fields <;> cases q.sort <;> rfl

/-! ### Reading what was written -/

/-- A member that was left out because it was empty reads as the empty list. -/
theorem elements?_orElse (items : List Value) :
    ((if items.isEmpty then Value.null else .array items).orElse (.array [])).elements?
      = .ok items := by
  cases items <;> rfl

theorem limitOr_int {n : Int} (hn : 1 ≤ n) (default : Value) :
    limitOr (.int n) default = .ok (.int n) := by
  have hlt : ¬ n < 1 := by omega
  show Except.ok (if n < 1 then default else .int n) = _
  rw [if_neg hlt]

theorem flatMap_sortOf (sort : List (String × Direction)) :
    (sort.map sortEntry).flatMap sortOf = sort := by
  induction sort with
  | nil => rfl
  | cons entry rest ih =>
    rw [List.map_cons, List.flatMap_cons, ih]
    show [(entry.1, Direction.ofValue (.str entry.2.name) .asc)] ++ rest = _
    rw [Direction.ofValue_name]
    rfl

/-- The entries of an object are its members. -/
theorem selectorOf_object (form : Form) (members : Members) :
    selectorOf (.object form members) = .ok (Members.ofEntries members) := by
  have hentries : Table.entries ((Value.object form members).orElse (.record []))
      = .ok (members.map fun entry => (.str entry.1, entry.2)) := by
    cases members <;> rfl
  rw [selectorOf, hentries]
  show ((members.map fun entry => (Value.str entry.1, entry.2)).mapM _ >>= fun named =>
    Except.ok (Members.ofEntries named) : Result Members) = _
  rw [List.mapM_map, mapM_eq_ok (g := id), List.map_id]
  · rfl
  · exact fun _ _ => rfl

theorem selectorOf_record {members : Members} (hnd : (Members.names members).Nodup) :
    selectorOf (.record members) = .ok members := by
  rw [Value.record, selectorOf_object, Members.ofEntries_eq_self hnd]

theorem ofMembers_entries {q : Query} (hq : q.IsCanonical) (default : Value) :
    ofMembers q.entries default = .ok q := by
  obtain ⟨n, hn, hlimit⟩ := hq.limit
  have hselector : selectorOf q.plainSelector
      = .ok (Value.withFormMembers .plain q.selector) := by
    refine selectorOf_record ?_
    rw [Members.names_withFormMembers]
    exact hq.distinct
  have hfields : q.fields.filter isFieldName = q.fields := List.filter_eq_self.mpr hq.fields
  have hfrozen : Value.withFormMembers .frozen (Value.withFormMembers .plain q.selector)
      = q.selector := by
    rw [Value.withFormMembers_withFormMembers, hq.frozen]
  rw [ofMembers, member_entries_limit, member_entries_fields, member_entries_sort, hlimit,
    limitOr_int hn, elements?_orElse]
  have hsort : ((if q.sort.isEmpty then Value.null else .array (q.sort.map sortEntry)).orElse
      (.array [])).elements? = .ok (q.sort.map sortEntry) := by
    rw [← elements?_orElse (q.sort.map sortEntry), List.isEmpty_map]
  rw [hsort]
  show (selectorOf q.plainSelector >>= fun selector => .ok (ofSelector selector (.int n)
    (q.fields.filter isFieldName) ((q.sort.map sortEntry).flatMap sortOf))) = _
  rw [hselector, hfields, flatMap_sortOf]
  show Except.ok (Query.mk _ (.int n) q.fields q.sort) = _
  rw [hfrozen, ← hlimit]

/-- The object form has a selector, and its lists are plain: it is accepted as a whole query. -/
theorem checkList_entries (q : Query) : listMembers.mapM (checkList q.entries) = .ok [(), ()] := by
  have hfields : checkList q.entries "fields" = .ok () := by
    rw [checkList, member_entries_fields]
    cases q.fields <;> rfl
  have hsort : checkList q.entries "sort" = .ok () := by
    rw [checkList, member_entries_sort]
    cases q.sort <;> rfl
  rw [listMembers, List.mapM_cons, List.mapM_cons, hfields, hsort]
  rfl

/-- **A canonical query is read back as itself**, whatever the default limit. -/
theorem IsCanonical.parse_toValue {q : Query} (hq : q.IsCanonical) (default : Value) :
    parse q.toValue default = .ok q := by
  rw [toValue_eq]
  show ofObject (.record q.entries) default = _
  rw [ofObject, get?_entries_selector]
  show (listMembers.mapM (checkList q.entries) >>= fun _ => ofMembers q.entries default) = _
  rw [checkList_entries, ofMembers_entries hq]
  rfl

/-! ### Queries that are made are canonical -/

/-- Freezing a selector with distinct names makes a canonical query out of it. -/
theorem isCanonical_ofSelector {selector : Members} {n : Int} {fields : List Value}
    (sort : List (String × Direction)) (hnd : (Members.names selector).Nodup) (hn : 1 ≤ n)
    (hfields : ∀ f ∈ fields, isFieldName f) :
    (ofSelector selector (.int n) fields sort).IsCanonical where
  frozen := Value.withFormMembers_withFormMembers .frozen .frozen selector
  distinct := by
    rw [ofSelector, Members.names_withFormMembers]
    exact hnd
  limit := ⟨n, hn, rfl⟩
  fields := hfields

/-- A limit is what was asked for if that is at least one, and the default otherwise. -/
theorem limitOr_eq_ok {requested limit : Value} {n : Int} (hn : 1 ≤ n)
    (h : limitOr requested (.int n) = .ok limit) : ∃ m : Int, 1 ≤ m ∧ limit = .int m := by
  obtain ⟨asked, -, h⟩ := bind_eq_ok.mp h
  cases asked with
  | none => exact ⟨n, hn, (Except.ok.inj h).symm⟩
  | some m =>
    have h : (if m < 1 then Value.int n else .int m) = limit := Except.ok.inj h
    split at h
    · exact ⟨n, hn, h.symm⟩
    · exact ⟨m, by omega, h.symm⟩

theorem nodup_of_selectorOf {v : Value} {members : Members} (h : selectorOf v = .ok members) :
    (Members.names members).Nodup := by
  obtain ⟨entries, -, h⟩ := bind_eq_ok.mp h
  obtain ⟨named, -, h⟩ := bind_eq_ok.mp h
  cases h
  exact Members.nodup_ofEntries named

theorem isCanonical_of_ofMembers {members : Members} {n : Int} {q : Query} (hn : 1 ≤ n)
    (h : ofMembers members (.int n) = .ok q) : q.IsCanonical := by
  obtain ⟨limit, hlimit, h⟩ := bind_eq_ok.mp h
  obtain ⟨fields, -, h⟩ := bind_eq_ok.mp h
  obtain ⟨sort, -, h⟩ := bind_eq_ok.mp h
  obtain ⟨selector, hselector, h⟩ := bind_eq_ok.mp h
  obtain ⟨m, hm, rfl⟩ := limitOr_eq_ok hn hlimit
  cases h
  exact isCanonical_ofSelector _ (nodup_of_selectorOf hselector) hm
    fun f hf => (List.mem_filter.mp hf).2

/-- An object whose names are distinct is read as a canonical query, if it is read at all. -/
theorem isCanonical_of_parse {form : Form} {members : Members} {n : Int} {q : Query}
    (hnd : (Members.names members).Nodup) (hn : 1 ≤ n)
    (h : parse (.object form members) (.int n) = .ok q) : q.IsCanonical := by
  change ofObject (.object form members) (.int n) = .ok q at h
  rw [ofObject] at h
  split at h
  -- Without a selector the object is the selector.
  next =>
    cases h
    exact isCanonical_ofSelector [] hnd hn fun _ hf => absurd hf List.not_mem_nil
  next =>
    obtain ⟨_, -, h⟩ := bind_eq_ok.mp h
    exact isCanonical_of_ofMembers hn h
  next => contradiction

/-! ### Building -/

theorem nodup_putEntry {selector : Members} (field : String) (entry : Value)
    (hnd : (Members.names selector).Nodup) :
    (Members.names (putEntry selector field entry)).Nodup := by
  unfold putEntry
  split <;> exact Members.nodup_insert hnd

theorem nodup_of_addRow {selector selector' : Members} {row : Row}
    (hnd : (Members.names selector).Nodup) (h : addRow selector row = .ok selector') :
    (Members.names selector').Nodup := by
  unfold addRow at h
  split at h
  · cases h
    exact hnd
  · obtain ⟨found, -, h⟩ := bind_eq_ok.mp h
    cases found with
    | none =>
      cases h
      exact hnd
    | some entry =>
      obtain ⟨field, -, h⟩ := bind_eq_ok.mp h
      cases h
      exact nodup_putEntry field entry hnd

theorem nodup_of_addRows {selector selector' : Members} {rows : List Value}
    (hnd : (Members.names selector).Nodup) (h : addRows selector rows = .ok selector') :
    (Members.names selector').Nodup := by
  induction rows generalizing selector with
  | nil =>
    cases h
    exact hnd
  | cons v rest ih =>
    obtain ⟨row, -, h⟩ := bind_eq_ok.mp h
    obtain ⟨next, hnext, h⟩ := bind_eq_ok.mp h
    exact ih (nodup_of_addRow hnd hnext) h

theorem limit_of_resolve {a b : Int} (ha : 1 ≤ a) (hb : 1 ≤ b) {requested limit : Value}
    (h : (Limits.mk (.int a) (.int b)).resolve requested = .ok limit) :
    ∃ m : Int, 1 ≤ m ∧ limit = .int m := by
  unfold Limits.resolve at h
  split at h
  · exact ⟨a, ha, (Except.ok.inj h).symm⟩
  · exact ⟨b, hb, (Except.ok.inj h).symm⟩
  · split at h
    · exact ⟨b, hb, (Except.ok.inj h).symm⟩
    · exact limitOr_eq_ok ha h
  · exact limitOr_eq_ok ha h

/-- Options keep the fields that are truthy, so those that are text are names. -/
theorem truthy_of_mem_fields {v : Value} {options : Options} (h : Options.ofValue v = .ok options) :
    ∀ f ∈ options.fields, f.truthy := by
  unfold Options.ofValue at h
  split at h
  · cases h
    exact fun f hf => absurd hf List.not_mem_nil
  · obtain ⟨members, -, h⟩ := bind_eq_ok.mp h
    obtain ⟨fields, -, h⟩ := bind_eq_ok.mp h
    obtain ⟨sort, -, h⟩ := bind_eq_ok.mp h
    cases h
    exact fun f hf => (List.mem_filter.mp hf).2

theorem isFieldName_of_truthy {f : Value} (htext : f.isText) (htruthy : f.truthy) :
    isFieldName f := by
  cases f with
  | str s => exact htruthy
  | _ => contradiction

/-- A query that is built is canonical if its fields are texts. -/
theorem isCanonical_of_build {a b : Int} (ha : 1 ≤ a) (hb : 1 ≤ b) {rows options : Value}
    {q : Query} (h : build ⟨.int a, .int b⟩ rows options = .ok q)
    (hfields : ∀ f ∈ q.fields, f.isText) : q.IsCanonical := by
  obtain ⟨options, hoptions, h⟩ := bind_eq_ok.mp h
  obtain ⟨items, -, h⟩ := bind_eq_ok.mp h
  obtain ⟨selector, hselector, h⟩ := bind_eq_ok.mp h
  obtain ⟨limit, hlimit, h⟩ := bind_eq_ok.mp h
  obtain ⟨sort, -, h⟩ := bind_eq_ok.mp h
  obtain ⟨m, hm, rfl⟩ := limit_of_resolve ha hb hlimit
  have hempty : (Members.names []).Nodup := List.nodup_nil
  cases h
  exact isCanonical_ofSelector sort (nodup_of_addRows hempty hselector) hm
    fun f hf => isFieldName_of_truthy (hfields f hf) (truthy_of_mem_fields hoptions f hf)

/-! ### The round trip -/

/-- **The object form of a query is read back as the query**, whether it was built or read, and
whatever limit the second reading defaults to. So reading is idempotent: reading an object,
writing it and reading again is reading it once, errors included. -/
theorem parse_toValue_roundTrip {a b : Int} (ha : 1 ≤ a) (hb : 1 ≤ b) (default : Value) :
    (∀ rows options q, build ⟨.int a, .int b⟩ rows options = .ok q →
      (∀ f ∈ q.fields, f.isText) → parse q.toValue default = .ok q) ∧
    (∀ form members, (Members.names members).Nodup →
      (∀ q, parse (.object form members) (.int a) = .ok q → parse q.toValue default = .ok q) ∧
      (do parse (← parse (.object form members) (.int a)).toValue default)
        = parse (.object form members) (.int a)) := by
  refine ⟨fun rows options q h hfields => ?_, fun form members hnd => ?_⟩
  · exact (isCanonical_of_build ha hb h hfields).parse_toValue default
  · have hparse : ∀ q, parse (.object form members) (.int a) = .ok q →
        parse q.toValue default = .ok q :=
      fun q h => (isCanonical_of_parse hnd ha h).parse_toValue default
    refine ⟨hparse, ?_⟩
    cases hread : parse (.object form members) (.int a) with
    | error e => rfl
    | ok q => exact hparse q hread

/-- Two rows for one field, with an order, and an object whose limit is too small and of whose
fields one is no name. -/
theorem parse_toValue_roundTrip_ages :
    let rows : Value := .array [
      .record [("field", .str "age"), ("operator", .str "gte"), ("value", .int 18)],
      .record [("field", .str "age"), ("operator", .str "lt"), ("value", .int 65)]]
    let options : Value := .record [("fields", .array [.str "age"]),
      ("sort", .record [("field", .str "age"), ("direction", .str "desc")])]
    let built : Query := ⟨[("age", .object .frozen [("$gte", .int 18), ("$lt", .int 65)])],
      .int 25, [.str "age"], [("age", .desc)]⟩
    let object : Members := [("selector", .record [("tags", .array [.array []])]),
      ("limit", .int 0), ("fields", .array [.str "tags", .null])]
    let read : Query := ⟨[("tags", .list .frozen [.list .frozen []])], .int 25, [.str "tags"], []⟩
    build ⟨.int 25, .int 1000⟩ rows options = .ok built ∧
      parse built.toValue (.int 5) = .ok built ∧
      parse (.record object) (.int 25) = .ok read ∧ parse read.toValue (.int 5) = .ok read := by
  intro rows options built object read
  have h := parse_toValue_roundTrip (a := 25) (b := 1000) (by decide) (by decide) (.int 5)
  have hbuilt : build ⟨.int 25, .int 1000⟩ rows options = .ok built := by rfl
  have hread : parse (.record object) (.int 25) = .ok read := by rfl
  have hnd : (Members.names object).Nodup := by decide
  exact ⟨hbuilt, h.1 rows options built hbuilt (by decide), hread,
    (h.2 .plain object hnd).1 read hread⟩

end Query

end DocView
