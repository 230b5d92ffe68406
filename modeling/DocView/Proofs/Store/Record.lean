import DocView.Proofs.Result
import DocView.Proofs.Value.Members
import DocView.Store.Basic

/-!
# Records and their flat forms

A record is kept in its flat form, in which the members of the store and those of the author stand
side by side, and is told apart again when it is read. Reading has fallbacks: an identifier or a
time that is missing is made up, and so is one that is there but does not count, such as zero or
the empty text. A record comes back as it was only if no fallback applies and no member of the
author has a name of the store. Such a record is *sound*, and every record that a store makes is.

An imported record is sound because of a check that seems to be about something else: its
identifier is shown as text, and the text is checked, so it is not empty.

## Main definitions

* `SavedQuery.Sound` - a record that its flat form determines
* `Store.WellFormed` - sound records with distinct identifiers
* `Store.AcceptsId` - a flat form whose identifier has been checked

## Main results

* `SavedQuery.ofMembers_toMembers` - a sound record comes back from its flat form
* `SavedQuery.sound_ofMembers` - a record read from a flat form is sound
* `Store.collect_eq_self` - records with distinct identifiers are collected as they are
* `Store.wellFormed_collect`, `Store.sound_of_records` - whatever is imported is well formed
-/

namespace DocView

namespace Value

theorem orElse_of_truthy {v default : Value} (h : v.truthy = true) : v.orElse default = v :=
  if_pos h

theorem truthy_orElse {v default : Value} (h : default.truthy = true) :
    (v.orElse default).truthy = true := by
  unfold orElse
  split
  next hv => exact hv
  next => exact h

end Value

namespace SavedQuery

variable {q : SavedQuery}

/-- A record that its flat form determines. -/
structure Sound (q : SavedQuery) : Prop where
  /-- The identifier has a text. -/
  id_ne : q.id ≠ ""
  /-- The time of creation counts. -/
  createdAt : q.createdAt.truthy = true
  /-- The time of the last change counts. -/
  updatedAt : q.updatedAt.truthy = true
  /-- The author's members have names of their own. -/
  attributes : ∀ name ∈ Members.names q.attributes, name ∉ reserved

theorem notMem_reserved_authorMembers (members : Members) :
    ∀ name ∈ Members.names (authorMembers members), name ∉ reserved :=
  fun _ h => (Members.mem_names_without.mp h).2

/-- **A sound record comes back from its flat form.** -/
theorem ofMembers_toMembers (h : q.Sound) (supply : Supply) :
    ofMembers q.toMembers supply = (q, supply.now.2) := by
  -- The times stand behind the author's members and are found because none of those hides them.
  have hmember : ∀ name ∈ reserved, Members.get? q.attributes name = none := fun name hname =>
    Members.get?_eq_none_of_notMem fun hmem => h.attributes name hmem hname
  have hid : Value.member q.toMembers "id" = .str q.id := rfl
  have hcreated : Value.member q.toMembers "createdAt" = q.createdAt := by
    simp [Value.member, toMembers, Members.get?_cons, Members.get?_append,
      hmember "createdAt" (by decide)]
  have hupdated : Value.member q.toMembers "updatedAt" = q.updatedAt := by
    simp [Value.member, toMembers, Members.get?_cons, Members.get?_append,
      hmember "updatedAt" (by decide)]
  have hauthor : authorMembers q.toMembers = q.attributes := by
    show Members.without ([("id", .str q.id)] ++ q.attributes
      ++ [("createdAt", q.createdAt), ("updatedAt", q.updatedAt)]) reserved = _
    rw [Members.without_append, Members.without_append, Members.without_eq_self h.attributes]
    exact List.append_nil q.attributes
  have htruthy : (Value.str q.id).truthy = true := bne_iff_ne.mpr h.id_ne
  unfold ofMembers
  simp only [hid, hcreated, hupdated, hauthor, Value.orElse_of_truthy h.createdAt,
    Value.orElse_of_truthy h.updatedAt, htruthy, if_true]
  rfl

/-- A flat form whose identifier, if it has one that counts, has a text. -/
def HasIdText (members : Members) : Prop :=
  (Value.member members "id").truthy = true → (Value.member members "id").display ≠ ""

/-- **A record read from a flat form is sound**, whatever the flat form lacks. -/
theorem sound_ofMembers {members : Members} (hid : HasIdText members) (supply : Supply) :
    (ofMembers members supply).1.Sound where
  id_ne := by
    by_cases htruthy : (Value.member members "id").truthy = true
    · simpa [ofMembers, htruthy] using hid htruthy
    · simpa [ofMembers, htruthy, Supply.freshId] using supply.now.2.ids_ne_empty _
  createdAt := Value.truthy_orElse (bne_iff_ne.mpr (supply.clock_ne_empty _))
  updatedAt := Value.truthy_orElse (Value.truthy_orElse (bne_iff_ne.mpr (supply.clock_ne_empty _)))
  attributes := notMem_reserved_authorMembers members

end SavedQuery

namespace Store

open SavedQuery (HasIdText)

variable {records : List SavedQuery} {q r : SavedQuery}

/-! ### Finding records and reading members -/

theorem mem_of_lookUp {id : Value} (h : lookUp records id = .ok q) : q ∈ records := by
  unfold lookUp at h
  split at h
  · cases h
  · split at h
    · split at h
      · next r hr =>
        cases h
        exact List.mem_of_find?_eq_some hr
      · cases h
    · cases h

theorem notMem_reserved_given {data : Value} {members : Members}
    (h : givenMembers data = .ok members) :
    ∀ name ∈ Members.names members, name ∉ SavedQuery.reserved := by
  obtain ⟨entries, -, h⟩ := bind_eq_ok.mp h
  obtain ⟨spelled, -, h⟩ := bind_eq_ok.mp h
  obtain rfl := Except.ok.inj h
  exact SavedQuery.notMem_reserved_authorMembers _

/-- The members of an object are taken as they are, without those that belong to the store. -/
theorem givenMembers_object (form : Form) (members : Members) :
    givenMembers (.object form members)
      = .ok (SavedQuery.authorMembers (Members.ofEntries members)) := by
  refine bind_eq_ok.mpr ⟨_, rfl, bind_eq_ok.mpr ⟨members, ?_, rfl⟩⟩
  -- Names are spelled as they are.
  rw [List.mapM_map]
  exact (mapM_eq_ok fun _ _ => rfl).trans (congrArg Except.ok (List.map_id members))

/-! ### Putting records together -/

theorem put_of_notMem (h : q.id ∉ ids records) : put records q = records ++ [q] := by
  induction records with
  | nil => rfl
  | cons first rest ih =>
    have hrest : q.id ≠ first.id ∧ q.id ∉ ids rest := by simpa [ids] using h
    rw [put, if_neg fun heq => hrest.1 heq.symm, ih hrest.2, List.cons_append]

/-- A record takes the place of the one with its identifier. -/
theorem ids_put_of_mem (h : q.id ∈ ids records) : ids (put records q) = ids records := by
  induction records with
  | nil => simp [ids] at h
  | cons first rest ih =>
    unfold put
    split
    next hfirst => simp [ids, hfirst]
    next hfirst =>
      have hrest : q.id ∈ ids rest := by
        rcases List.mem_cons.mp h with heq | hmem
        · exact absurd heq.symm hfirst
        · exact hmem
      show first.id :: ids (put rest q) = first.id :: ids rest
      rw [ih hrest]

theorem nodup_ids_put (h : (ids records).Nodup) : (ids (put records q)).Nodup := by
  by_cases hmem : q.id ∈ ids records
  · rwa [ids_put_of_mem hmem]
  · rw [put_of_notMem hmem, ids, List.map_append]
    refine List.nodup_append.mpr ⟨h, List.nodup_singleton q.id, ?_⟩
    rintro a ha b hb rfl
    exact hmem (List.mem_singleton.mp hb ▸ ha)

theorem mem_of_mem_put (h : r ∈ put records q) : r ∈ records ∨ r = q := by
  induction records with
  | nil => exact .inr (List.mem_singleton.mp h)
  | cons first rest ih =>
    unfold put at h
    split at h
    next =>
      rcases List.mem_cons.mp h with rfl | hmem
      · exact .inr rfl
      · exact .inl (List.mem_cons_of_mem first hmem)
    next =>
      rcases List.mem_cons.mp h with rfl | hmem
      · exact .inl List.mem_cons_self
      · exact (ih hmem).imp_left (List.mem_cons_of_mem first)

theorem foldl_put_of_nodup {front : List SavedQuery} (h : (ids (front ++ records)).Nodup) :
    records.foldl put front = front ++ records := by
  induction records generalizing front with
  | nil => exact (List.append_nil front).symm
  | cons first rest ih =>
    have hsplit : front ++ first :: rest = (front ++ [first]) ++ rest := by simp
    have hnew : first.id ∉ ids front := by
      intro hmem
      rw [ids, List.map_append] at h
      exact (List.nodup_append.mp h).2.2 _ hmem _ List.mem_cons_self rfl
    rw [List.foldl_cons, put_of_notMem hnew, hsplit]
    exact ih (hsplit ▸ h)

/-- Records with distinct identifiers are collected as they are. -/
theorem collect_eq_self (h : (ids records).Nodup) : collect records = records := by
  have hnil : (ids ([] ++ records)).Nodup := h
  exact foldl_put_of_nodup hnil

/-! ### Well-formed lists -/

/-- Sound records with distinct identifiers. -/
structure WellFormed (records : List SavedQuery) : Prop where
  /-- The identifiers are distinct. -/
  nodup : (ids records).Nodup
  /-- The records are sound. -/
  sound : ∀ q ∈ records, q.Sound

theorem wellFormed_nil : WellFormed [] := ⟨List.nodup_nil, List.forall_mem_nil _⟩

theorem WellFormed.put (h : WellFormed records) (hq : q.Sound) :
    WellFormed (Store.put records q) where
  nodup := nodup_ids_put h.nodup
  sound r hr := by
    rcases mem_of_mem_put hr with hmem | rfl
    · exact h.sound r hmem
    · exact hq

theorem WellFormed.filter (h : WellFormed records) (p : SavedQuery → Bool) :
    WellFormed (records.filter p) where
  nodup := h.nodup.sublist (List.filter_sublist.map SavedQuery.id)
  sound q hq := h.sound q (List.mem_filter.mp hq).1

theorem wellFormed_foldl_put {front : List SavedQuery} (hfront : WellFormed front)
    (h : ∀ q ∈ records, q.Sound) : WellFormed (records.foldl Store.put front) := by
  induction records generalizing front with
  | nil => exact hfront
  | cons first rest ih =>
    obtain ⟨hfirst, hrest⟩ := List.forall_mem_cons.mp h
    exact ih (hfront.put hfirst) hrest

/-- Whatever sound records are collected, the result is well formed. -/
theorem wellFormed_collect (h : ∀ q ∈ records, q.Sound) : WellFormed (collect records) :=
  wellFormed_foldl_put wellFormed_nil h

/-! ### Imported records -/

theorem carriesId_of_truthy {v : Value} (h : v.truthy = true) : Argument.carriesId v = true := by
  cases v with
  | null => cases h
  | str s => exact h
  | _ => rfl

/-- A flat form whose identifier, if it carries one, has been checked as text. -/
def AcceptsId (members : Members) : Prop :=
  Argument.carriesId (Value.member members "id") = true →
    ∃ id, Argument.queryId (.str (Value.member members "id").display) = .ok id

/-- An identifier that counts is checked as text, and the check refuses the empty text. -/
theorem AcceptsId.hasIdText {members : Members} (h : AcceptsId members) : HasIdText members := by
  intro htruthy hempty
  obtain ⟨id, hchecked⟩ := h (carriesId_of_truthy htruthy)
  rw [hempty] at hchecked
  cases hchecked

theorem acceptsId_of_record {index : Nat} {v : Value} {members : Members}
    (h : Argument.record index v = .ok members) : AcceptsId members := by
  unfold Argument.record at h
  split at h
  next given =>
    by_cases hcarries : Argument.carriesId (Value.member given "id") = true
    · simp only [hcarries, if_true] at h
      obtain ⟨id, hchecked, h⟩ := bind_eq_ok.mp h
      obtain rfl := Except.ok.inj h
      exact fun _ => ⟨id, hchecked⟩
    · simp only [hcarries] at h
      obtain rfl := Except.ok.inj h
      exact fun hgiven => absurd hgiven hcarries
  next => cases h

theorem acceptsId_of_recordsFrom {index : Nat} {items : List Value} {given : List Members}
    (h : Argument.recordsFrom index items = .ok given) : ∀ members ∈ given, AcceptsId members := by
  induction items generalizing index given with
  | nil =>
    obtain rfl := Except.ok.inj h
    exact List.forall_mem_nil _
  | cons v rest ih =>
    obtain ⟨first, hfirst, h⟩ := bind_eq_ok.mp h
    obtain ⟨others, hothers, h⟩ := bind_eq_ok.mp h
    obtain rfl := Except.ok.inj h
    exact List.forall_mem_cons.mpr ⟨acceptsId_of_record hfirst, ih hothers⟩

theorem acceptsId_of_records {data : Value} {given : List Members}
    (h : Argument.records data = .ok given) : ∀ members ∈ given, AcceptsId members := by
  unfold Argument.records at h
  split at h
  next => exact acceptsId_of_recordsFrom h
  next => cases h

theorem sound_recordsOf {given : List Members} (h : ∀ members ∈ given, HasIdText members)
    (supply : Supply) : ∀ q ∈ (recordsOf given supply).1, q.Sound := by
  induction given generalizing supply with
  | nil => exact List.forall_mem_nil _
  | cons members rest ih =>
    obtain ⟨hmembers, hrest⟩ := List.forall_mem_cons.mp h
    exact List.forall_mem_cons.mpr ⟨SavedQuery.sound_ofMembers hmembers supply, ih hrest _⟩

/-- **Imported records are sound.** -/
theorem sound_of_records {data : Value} {given : List Members}
    (h : Argument.records data = .ok given) (supply : Supply) :
    ∀ q ∈ (recordsOf given supply).1, q.Sound :=
  sound_recordsOf (fun _ hmembers => (acceptsId_of_records h _ hmembers).hasIdText) supply

end Store

end DocView
