import DocView.Proofs.Store.Call
import DocView.Proofs.Store.Record
import Mathlib.Data.List.Induction

/-!
# A store is an ordered list

What a store does with its records can be said about a plain list: a record is added at the end,
replaced where it stands, or taken out, and an import puts other records in place of all. The list
knows neither how a record is found nor where it is kept. So the steps of the list are stated by
how the list is cut into pieces, members by what is found under each name and in which order the
names stand, and imported records by what is kept of each one. What a caller hands in is read in
both in one way, by `givenMembers` and by `Argument.records`; beyond that no step uses the
functions of the store.

The one thing that the store relies on is that no identifier comes twice. Taking a record out by
its identifier would take out others with it, and a new record would take the place of an old one.

A commit that fails is no step of the list: the call answers with the failure, and the list stays.

## Main definitions

* `Store.CallerFields`, `Store.Overlays`, `Store.Restored`, `Store.Collected` - what is put into
  records and lists
* `Store.Ledger.Step`, `Store.Ledger.Run` - the plain list

## Main results

* `Store.Call.takes` - every call is a step of the list or fails to write
* `Store.run_ledger` - the answers of a store are those of the list
-/

namespace DocView.Store

open SavedQuery (reserved)

/-! ### What is put into records -/

/-- The members that a caller gives. -/
structure CallerFields (data : Value) (fields : Members) : Prop where
  /-- They are what can be read of the data as a table. -/
  given : givenMembers data = .ok fields
  /-- No name comes twice. -/
  nodup : (Members.names fields).Nodup
  /-- No name is one of the store. -/
  own : ∀ name ∈ Members.names fields, name ∉ reserved
  /-- All other members of an object are taken, in order. -/
  all : ∀ form members, data = .object form members → (Members.names members).Nodup →
    fields = members.filter fun entry => entry.1 ∉ reserved

/-- Members laid over others. -/
structure Overlays (old fields new : Members) : Prop where
  /-- The upper value of a name hides the lower one. -/
  get? : ∀ name, Members.get? new name = (Members.get? fields name).or (Members.get? old name)
  /-- Lower names keep their places, and new upper names follow in order. -/
  names : Members.names new
    = Members.names old ++ (Members.names fields).filter fun name => name ∉ Members.names old

/-- A record from its flat form. What it lacks is taken from the supply on the way. -/
structure Restored (before after : Supply) (members : Members) (q : SavedQuery) : Prop where
  /-- The identifier is the text of the given one, or a fresh one. -/
  id : if (Value.member members "id").truthy then q.id = (Value.member members "id").display
    else before.Issues after q.id
  /-- The time of creation is the given one, or the present. -/
  createdAt : if (Value.member members "createdAt").truthy
    then q.createdAt = Value.member members "createdAt"
    else ∃ now, before.Reads after now ∧ q.createdAt = .str now
  /-- The time of the last change is the given one, or that of the creation. -/
  updatedAt : if (Value.member members "updatedAt").truthy
    then q.updatedAt = Value.member members "updatedAt" else q.updatedAt = q.createdAt
  /-- All other members are kept, in order. -/
  attributes : q.attributes = members.filter fun entry => entry.1 ∉ reserved

/-- Records in which each identifier comes once. -/
structure Collected (qs kept : List SavedQuery) : Prop where
  /-- No identifier comes twice. -/
  nodup : (Store.ids kept).Nodup
  /-- An identifier has the place at which it came first. -/
  ids : Store.ids kept = (Store.ids qs).eraseDups
  /-- Its record is the one that came last. -/
  last : ∀ q ∈ kept, ∃ front back, qs = front ++ q :: back ∧ q.id ∉ Store.ids back

/-! ### The plain list -/

/-- The identifier of the record that a call is about. -/
def Call.subject? : Call → Option Value
  | .update id _ => some id
  | .delete id => some id
  | .get id => some id
  | _ => none

/-- The answer of a plain list to a call, and the list after it. Time stamps and identifiers are
those that are taken from the supply on the way. -/
inductive Ledger.Step (before after : Supply) (records : List SavedQuery) :
    Call → Result Answer → List SavedQuery → Prop
  /-- A new record comes last. Its identifier is not in the list, and its times are the same. -/
  | create {data fields id now} (given : CallerFields data fields) (issued : before.Issues after id)
    (unused : ∀ q ∈ records, q.id ≠ id) (read : before.Reads after now) :
    Step before after records (.create data) (.ok (.record ⟨id, .str now, .str now, fields⟩))
      (records ++ [⟨id, .str now, .str now, fields⟩])
  /-- What is no table is refused. -/
  | createRefused {data e} (refused : givenMembers data = .error e) :
    Step before after records (.create data) (.error e) records
  /-- A record gets new members and a new time of change where it stands. -/
  | update {data fields front old back attributes now} (found : records = front ++ old :: back)
    (given : CallerFields data fields) (overlaid : Overlays old.attributes fields attributes)
    (read : before.Reads after now) :
    Step before after records (.update (.str old.id) data)
      (.ok (.record ⟨old.id, old.createdAt, .str now, attributes⟩))
      (front ++ ⟨old.id, old.createdAt, .str now, attributes⟩ :: back)
  /-- What is no table is refused. -/
  | updateRefused {data e old} (found : old ∈ records) (refused : givenMembers data = .error e) :
    Step before after records (.update (.str old.id) data) (.error e) records
  /-- A record is taken out. -/
  | delete {front old back} (found : records = front ++ old :: back) :
    Step before after records (.delete (.str old.id)) (.ok (.record old)) (front ++ back)
  /-- Other records take the place of all. -/
  | importAll {data given qs kept} (checked : Argument.records data = .ok given)
    (restored : List.Forall₂ (Restored before after) given qs) (collected : Collected qs kept) :
    Step before after records (.importAll data) (.ok (.count kept.length)) kept
  /-- What is no list of records is refused. -/
  | importRefused {data e} (refused : Argument.records data = .error e) :
    Step before after records (.importAll data) (.error e) records
  /-- A record is found by its identifier. -/
  | get {q} (found : q ∈ records) :
    Step before after records (.get (.str q.id)) (.ok (.record q)) records
  /-- All records in order. -/
  | list : Step before after records .list (.ok (.records records)) records
  /-- The flat forms of all records in order. -/
  | exportAll : Step before after records .exportAll
      (.ok (.value (.array (records.map SavedQuery.toValue)))) records
  /-- The number of records. -/
  | size : Step before after records .size (.ok (.count records.length)) records
  /-- There is no record with the identifier. -/
  | absent {call id} (subject : call.subject? = some id) (key : Document.unhashable? id = none)
    (absent : ∀ q ∈ records, id ≠ .str q.id) :
    Step before after records call (.error (.queryNotFound id.display)) records
  /-- What is given can be no identifier. -/
  | unhashable {call id kind} (subject : call.subject? = some id)
    (noKey : Document.unhashable? id = some kind) :
    Step before after records call (.error (.unhashable kind)) records

/-- Calls on a plain list with their answers, one after the other, from an empty list on. -/
inductive Ledger.Run (supply : Supply) :
    List (Call × Result Answer) → Supply → List SavedQuery → Prop
  | start : Run supply [] supply []
  | call {trace before after records call answer records'} (run : Run supply trace before records)
    (precedes : before.Precedes after)
    (step : Ledger.Step before after records call answer records') :
    Run supply (trace ++ [(call, answer)]) after records'

/-! ### Functions of the store -/

section

variable {records qs : List SavedQuery} {q : SavedQuery}

theorem authorMembers_eq_filter (members : Members) :
    SavedQuery.authorMembers members = members.filter fun entry => entry.1 ∉ reserved := by
  unfold SavedQuery.authorMembers Members.without
  exact List.filter_congr fun entry _ => by simp

theorem callerFields {data : Value} {fields : Members} (h : givenMembers data = .ok fields) :
    CallerFields data fields where
  given := h
  own := notMem_reserved_given h
  nodup := by
    obtain ⟨entries, -, h⟩ := bind_eq_ok.mp h
    obtain ⟨spelled, -, h⟩ := bind_eq_ok.mp h
    obtain rfl := Except.ok.inj h
    exact Members.nodup_names_without (Members.nodup_ofEntries spelled)
  all := by
    rintro form members rfl hnd
    obtain rfl := Except.ok.inj ((givenMembers_object form members).symm.trans h)
    rw [Members.ofEntries_eq_self hnd, authorMembers_eq_filter]

theorem overlays_overlay {old fields : Members} (hnd : (Members.names fields).Nodup) :
    Overlays old fields (Members.overlay old fields) :=
  ⟨Members.get?_overlay hnd, Members.names_overlay hnd⟩

/-! ### Imported records -/

theorem Restored.mono {before before' after after' : Supply} {members : Members}
    (h : Restored before' after members q) (hbefore : before.Precedes before')
    (hafter : after.Precedes after') : Restored before after' members q where
  id := by
    have hid := h.id
    by_cases hgiven : (Value.member members "id").truthy = true
    · rwa [if_pos hgiven] at hid ⊢
    · rw [if_neg hgiven] at hid ⊢
      exact hid.mono hbefore hafter
  createdAt := by
    have hcreated := h.createdAt
    by_cases hgiven : (Value.member members "createdAt").truthy = true
    · rwa [if_pos hgiven] at hcreated ⊢
    · rw [if_neg hgiven] at hcreated ⊢
      obtain ⟨now, hread, hnow⟩ := hcreated
      exact ⟨now, hread.mono hbefore hafter, hnow⟩
  updatedAt := h.updatedAt
  attributes := h.attributes

/-- The supply is read once for the time, and once more if an identifier is missing. -/
theorem ofMembers_eq (members : Members) (supply : Supply) :
    SavedQuery.ofMembers members supply =
      let createdAt := (Value.member members "createdAt").orElse (.str supply.now.1)
      let drawn := if (Value.member members "id").truthy
        then ((Value.member members "id").display, supply.now.2) else supply.now.2.freshId
      (⟨drawn.1, createdAt, (Value.member members "updatedAt").orElse createdAt,
        SavedQuery.authorMembers members⟩, drawn.2) := rfl

theorem now_precedes_ofMembers (members : Members) (supply : Supply) :
    supply.now.2.Precedes (SavedQuery.ofMembers members supply).2 := by
  rw [ofMembers_eq]
  split
  · exact .refl _
  · exact supply.now.2.precedes_freshId

theorem restored_ofMembers (members : Members) (supply : Supply) :
    Restored supply (SavedQuery.ofMembers members supply).2 members
      (SavedQuery.ofMembers members supply).1 where
  id := by
    rw [ofMembers_eq]
    split
    · rfl
    · exact supply.now.2.issues_freshId.mono supply.precedes_now (.refl _)
  createdAt := by
    have hread := supply.reads_now.mono (.refl _) (now_precedes_ofMembers members supply)
    split
    next h => exact Value.orElse_of_truthy h
    next h => exact ⟨supply.now.1, hread, if_neg h⟩
  updatedAt := by
    rw [ofMembers_eq]
    split
    next h => exact Value.orElse_of_truthy h
    next h => exact if_neg h
  attributes := authorMembers_eq_filter members

theorem precedes_recordsOf (given : List Members) (supply : Supply) :
    supply.Precedes (recordsOf given supply).2 := by
  induction given generalizing supply with
  | nil => exact .refl _
  | cons members rest ih =>
    exact supply.precedes_now.trans ((now_precedes_ofMembers members supply).trans (ih _))

theorem restored_recordsOf (given : List Members) (supply : Supply) :
    List.Forall₂ (Restored supply (recordsOf given supply).2) given (recordsOf given supply).1 := by
  induction given generalizing supply with
  | nil => exact .nil
  | cons members rest ih =>
    have hfirst := supply.precedes_now.trans (now_precedes_ofMembers members supply)
    refine .cons ?_ ?_
    · exact (restored_ofMembers members supply).mono (.refl _) (precedes_recordsOf rest _)
    · exact (ih (SavedQuery.ofMembers members supply).2).imp fun _ _ h => h.mono hfirst (.refl _)

/-! ### Collected records -/

theorem collect_concat (qs : List SavedQuery) (q : SavedQuery) :
    collect (qs ++ [q]) = put (collect qs) q := by
  rw [collect, List.foldl_append]
  rfl

theorem mem_put_self (records : List SavedQuery) (q : SavedQuery) : q ∈ put records q := by
  induction records with
  | nil => exact List.mem_singleton_self q
  | cons first rest ih =>
    unfold put
    split
    · exact List.mem_cons_self
    · exact List.mem_cons_of_mem first ih

theorem nodup_ids_collect (qs : List SavedQuery) : (ids (collect qs)).Nodup := by
  induction qs using List.reverseRecOn with
  | nil => exact List.nodup_nil
  | append_singleton qs q ih =>
    rw [collect_concat]
    exact nodup_ids_put ih

theorem collected_collect (qs : List SavedQuery) : Collected qs (collect qs) := by
  induction qs using List.reverseRecOn with
  | nil => exact ⟨List.nodup_nil, rfl, List.forall_mem_nil _⟩
  | append_singleton qs q ih =>
    have hids : ids (qs ++ [q]) = ids qs ++ [q.id] := List.map_append
    have hmem : q.id ∈ ids (collect qs) ↔ q.id ∈ ids qs := ih.ids ▸ List.mem_eraseDups
    refine ⟨nodup_ids_collect _, ?_, fun r hr => ?_⟩
    · rw [collect_concat, hids, List.eraseDups_append, ← ih.ids]
      by_cases h : q.id ∈ ids qs
      · have hnone : [q.id].removeAll (ids qs) = [] := by simpa [List.removeAll] using h
        rw [ids_put_of_mem (hmem.mpr h), hnone]
        exact (List.append_nil _).symm
      · have hall : [q.id].removeAll (ids qs) = [q.id] := by simpa [List.removeAll] using h
        rw [put_of_notMem fun hold => h (hmem.mp hold), hall]
        exact List.map_append
    · rw [collect_concat] at hr
      by_cases h : r.id = q.id
      · have hnd : (ids (put (collect qs) q)).Nodup := nodup_ids_put (nodup_ids_collect qs)
        obtain rfl := List.inj_on_of_nodup_map hnd hr (mem_put_self _ q) h
        exact ⟨qs, [], rfl, List.not_mem_nil⟩
      · rcases mem_of_mem_put hr with hold | rfl
        · obtain ⟨front, back, rfl, hback⟩ := ih.last r hold
          refine ⟨front, back ++ [q], by simp, ?_⟩
          simpa [ids, h] using hback
        · exact absurd rfl h

/-! ### Records that are found -/

theorem cut_of_lookUp {id : Value} (h : lookUp records id = .ok q) :
    id = .str q.id ∧ ∃ front back, records = front ++ q :: back ∧ q.id ∉ ids front := by
  unfold lookUp at h
  split at h
  · cases h
  · split at h
    next s _ =>
      split at h
      next r hr =>
        cases h
        obtain ⟨hid, front, back, hcut, hfront⟩ := List.find?_eq_some_iff_append.mp hr
        have hs : q.id = s := by simpa using hid
        refine ⟨congrArg Value.str hs.symm, front, back, hcut, fun hmem => ?_⟩
        obtain ⟨r, hr, hid⟩ := List.mem_map.mp hmem
        simpa [hid, hs] using hfront r hr
      next => cases h
    next => cases h

theorem step_of_lookUp_error {before after : Supply} {call : Call} {id : Value} {e : Error}
    (hsubject : call.subject? = some id) (h : lookUp records id = .error e) :
    Ledger.Step before after records call (.error e) records := by
  unfold lookUp at h
  cases hkey : Document.unhashable? id with
  | some kind =>
    rw [hkey] at h
    cases h
    exact .unhashable hsubject hkey
  | none =>
    simp only [hkey] at h
    split at h
    next s =>
      cases hfind : find? records s with
      | some q => rw [hfind] at h; cases h
      | none =>
        rw [hfind] at h
        cases h
        refine .absent hsubject hkey fun q hq heq => ?_
        have hne := List.find?_eq_none.mp hfind q hq
        cases heq
        exact hne (beq_self_eq_true _)
    next hother =>
      cases h
      exact .absent hsubject hkey fun q _ heq => hother q.id heq

theorem put_cut {front back : List SavedQuery} {old new : SavedQuery} (hid : new.id = old.id)
    (hfront : old.id ∉ ids front) : put (front ++ old :: back) new = front ++ new :: back := by
  induction front with
  | nil => exact if_pos hid.symm
  | cons first rest ih =>
    have hrest : old.id ≠ first.id ∧ old.id ∉ ids rest := by simpa [ids] using hfront
    rw [List.cons_append, put, if_neg fun heq => hrest.1 (hid ▸ heq.symm), ih hrest.2]
    rfl

/-- If no identifier comes twice, nothing else is taken out with a record. -/
theorem filter_cut {front back : List SavedQuery} {old : SavedQuery}
    (hnd : (ids (front ++ old :: back)).Nodup) :
    (front ++ old :: back).filter (fun r => r.id != old.id) = front ++ back := by
  rw [ids, List.map_append, List.map_cons] at hnd
  obtain ⟨-, hold, hapart⟩ := List.nodup_append.mp hnd
  have hfront : ∀ r ∈ front, (r.id != old.id) = true := fun r hr =>
    bne_iff_ne.mpr (hapart r.id (List.mem_map_of_mem hr) old.id List.mem_cons_self)
  have hback : ∀ r ∈ back, (r.id != old.id) = true := fun r hr =>
    bne_iff_ne.mpr fun heq => (List.nodup_cons.mp hold).1 (heq ▸ List.mem_map_of_mem hr)
  rw [List.filter_append, List.filter_cons_of_neg (by simp), List.filter_eq_self.mpr hfront,
    List.filter_eq_self.mpr hback]

end

/-! ### Calls -/

section

variable {s : State} {call : Call} {supply : Supply} {records : List SavedQuery}

/-- What a call comes to: a step of the list, or nothing but the answer that the records cannot be
written. -/
inductive Takes (s : State) (call : Call) : Result Answer × State → Prop
  | step {answer records supply disk} (precedes : s.supply.Precedes supply)
    (step : Ledger.Step s.supply supply s.records call answer records) :
    Takes s call (answer, { s with records := records, supply := supply, disk := disk })
  | unwritten {e supply disk} (precedes : s.supply.Precedes supply) (failure : e.IsWriteFailure)
    (backed : s.backing ≠ none) :
    Takes s call (.error e, { s with supply := supply, disk := disk })

/-- A call that commits the records of a step takes that step, or fails to write. -/
theorem takes_commit {answer : Answer} {f : Unit → Action Answer}
    (precedes : s.supply.Precedes supply)
    (step : Ledger.Step s.supply supply s.records call (.ok answer) records)
    (hf : ∀ t : State, t.records = records → (f ()).apply t = (.ok answer, t)) :
    Takes s call ((commit records >>= f).apply { s with supply := supply }) := by
  have hcommits := commit_commits { s with supply := supply } records
  rw [Action.apply_bind]
  generalize (commit records).apply { s with supply := supply } = outcome at hcommits ⊢
  cases hcommits with
  | kept disk =>
    show Takes s call ((f ()).apply _)
    rw [hf _ rfl]
    exact .step precedes step
  | unwritten disk failure backed => exact .unwritten precedes failure backed

theorem takes_create (s : State) (data : Value) :
    Takes s (.create data) ((Call.create data).run s) := by
  let stamped := s.supply.now.2
  have hissue := stamped.precedes_unusedId (ids s.records)
  have precedes := s.supply.precedes_now.trans hissue
  simp only [Call.run, Call.action, create, bind_assoc, pure_bind, Action.apply_draw_bind,
    Action.apply_get_bind, Action.apply_ofResult_bind]
  cases given : givenMembers data with
  | error e => exact .step precedes (.createRefused given)
  | ok fields =>
    have issued := (stamped.issues_unusedId (ids s.records)).mono s.supply.precedes_now (.refl _)
    have unused : ∀ q ∈ s.records, q.id ≠ (stamped.unusedId (ids s.records)).1 :=
      fun q hq heq => stamped.unusedId_notMem (ids s.records) (heq ▸ List.mem_map_of_mem hq)
    have read := s.supply.reads_now.mono (.refl _) hissue
    exact takes_commit precedes (.create (callerFields given) issued unused read) fun _ _ => rfl

theorem takes_update (s : State) (id data : Value) :
    Takes s (.update id data) ((Call.update id data).run s) := by
  simp only [Call.run, Call.action, update, bind_assoc, pure_bind, Action.apply_draw_bind,
    Action.apply_get_bind, Action.apply_ofResult_bind]
  cases found : lookUp s.records id with
  | error e => exact .step (.refl _) (step_of_lookUp_error rfl found)
  | ok old =>
    obtain ⟨rfl, front, back, hcut, hfront⟩ := cut_of_lookUp found
    cases given : givenMembers data with
    | error e =>
      exact .step s.supply.precedes_now (.updateRefused (mem_of_lookUp found) given)
    | ok fields =>
      have hfields := callerFields given
      let new : SavedQuery :=
        ⟨old.id, old.createdAt, .str s.supply.now.1, old.attributes.overlay fields⟩
      have hid : new.id = old.id := rfl
      have hput : put s.records new = front ++ new :: back := by rw [hcut, put_cut hid hfront]
      have step := Ledger.Step.update hcut hfields (overlays_overlay hfields.nodup)
        s.supply.reads_now
      exact takes_commit s.supply.precedes_now (hput ▸ step) fun _ _ => rfl

theorem takes_delete (s : State) (hnd : (ids s.records).Nodup) (id : Value) :
    Takes s (.delete id) ((Call.delete id).run s) := by
  simp only [Call.run, Call.action, delete, bind_assoc, pure_bind, Action.apply_get_bind,
    Action.apply_ofResult_bind]
  cases found : lookUp s.records id with
  | error e => exact .step (.refl _) (step_of_lookUp_error rfl found)
  | ok old =>
    obtain ⟨rfl, front, back, hcut, -⟩ := cut_of_lookUp found
    have hfilter : s.records.filter (fun r => r.id != old.id) = front ++ back := by
      rw [hcut, filter_cut (hcut ▸ hnd)]
    exact takes_commit (.refl _) (hfilter ▸ .delete hcut) fun _ _ => rfl

theorem takes_importAll (s : State) (data : Value) :
    Takes s (.importAll data) ((Call.importAll data).run s) := by
  simp only [Call.run, Call.action, importAll, bind_assoc, pure_bind, Action.apply_draw_bind,
    Action.apply_ofResult_bind]
  cases checked : Argument.records data with
  | error e => exact .step (.refl _) (.importRefused checked)
  | ok given =>
    have restored := restored_recordsOf given s.supply
    refine takes_commit (precedes_recordsOf given s.supply)
      (.importAll checked restored (collected_collect _)) fun t ht => ?_
    rw [Action.apply_get_bind, ht]
    rfl

theorem takes_get (s : State) (id : Value) : Takes s (.get id) ((Call.get id).run s) := by
  have hfetch : (fetch id).apply s = (lookUp s.records id, s) := rfl
  simp only [Call.run, Call.action, Action.apply_bind, hfetch]
  cases found : lookUp s.records id with
  | error e => exact .step (.refl _) (step_of_lookUp_error rfl found)
  | ok q =>
    obtain ⟨rfl, -⟩ := cut_of_lookUp found
    exact .step (.refl _) (.get (mem_of_lookUp found))

/-- **Every call is a step of the list or fails to write.** -/
theorem Call.takes (call : Call) (s : State) (hnd : (ids s.records).Nodup) :
    Takes s call (call.run s) := by
  cases call with
  | create data => exact takes_create s data
  | update id data => exact takes_update s id data
  | delete id => exact takes_delete s hnd id
  | importAll data => exact takes_importAll s data
  | get id => exact takes_get s id
  | list => exact .step (.refl _) .list
  | exportAll => exact .step (.refl _) .exportAll
  | size => exact .step (.refl _) .size

end

/-! ### Runs -/

section

variable {s t : State} {trace : List (Call × Result Answer)}

theorem Ledger.Step.nodup {before after : Supply} {records records' : List SavedQuery} {call : Call}
    {answer : Result Answer} (h : Ledger.Step before after records call answer records')
    (hnd : (ids records).Nodup) : (ids records').Nodup := by
  cases h with
  | create given issued unused read =>
    rw [ids, List.map_append]
    refine List.nodup_append.mpr ⟨hnd, List.nodup_singleton _, ?_⟩
    rintro _ ha _ hb rfl
    obtain ⟨q, hq, hid⟩ := List.mem_map.mp ha
    exact unused q hq (hid.trans (List.mem_singleton.mp hb))
  | update found =>
    subst found
    simpa [ids] using hnd
  | delete found =>
    subst found
    exact hnd.sublist ((List.sublist_cons_self _ _).append_left _ |>.map _)
  | importAll _ _ collected => exact collected.nodup
  | _ => exact hnd

theorem Takes.backing_eq {call : Call} {o : Result Answer × State} (h : Takes s call o) :
    o.2.backing = s.backing := by
  cases h <;> rfl

theorem Takes.precedes {call : Call} {o : Result Answer × State} (h : Takes s call o) :
    s.supply.Precedes o.2.supply := by
  cases h with
  | step precedes => exact precedes
  | unwritten precedes => exact precedes

theorem Takes.nodup {call : Call} {o : Result Answer × State} (h : Takes s call o)
    (hnd : (ids s.records).Nodup) : (ids o.2.records).Nodup := by
  cases h with
  | step _ step => exact step.nodup hnd
  | unwritten => exact hnd

/-- No two records ever share an identifier, a store keeps its file or has none, and its supply
goes on. -/
theorem Run.invariant (h : Run s trace t) (hnd : (ids s.records).Nodup) :
    (ids t.records).Nodup ∧ t.backing = s.backing ∧ s.supply.Precedes t.supply := by
  induction h with
  | start => exact ⟨hnd, rfl, .refl _⟩
  | call call _ ih =>
    obtain ⟨htnd, hbacking, hprecedes⟩ := ih
    have htakes := call.takes _ htnd
    exact ⟨htakes.nodup htnd, htakes.backing_eq.trans hbacking, hprecedes.trans htakes.precedes⟩
  | disturbance _ _ ih => exact ih

/-- **A store is an ordered list.** Let calls of any kind be made on a store without records, in
memory or on disk, and let others do to the disk whatever they like. If no call fails to write, the
answers, the records and their order are those of a plain list on which the same calls are made. No
two records share an identifier. -/
theorem run_ledger (hempty : s.records = []) (hrun : Run s trace t)
    (hwrites : s.backing = none ∨ ∀ entry ∈ trace, ∀ e, entry.2 = .error e → ¬ e.IsWriteFailure) :
    Ledger.Run s.supply trace t.supply t.records ∧ (ids t.records).Nodup := by
  have hnd : (ids s.records).Nodup := by
    rw [hempty]
    exact List.nodup_nil
  refine ⟨?_, (hrun.invariant hnd).1⟩
  induction hrun with
  | start =>
    rw [hempty]
    exact .start
  | @call trace t call run ih =>
    obtain ⟨htnd, hbacking, -⟩ := run.invariant hnd
    have hbefore := hwrites.imp_right fun h entry hentry => h entry (List.mem_append_left _ hentry)
    have htakes := call.takes t htnd
    generalize call.run t = o at htakes hwrites ⊢
    cases htakes with
    | step precedes step => exact .call (ih hbefore) precedes step
    | @unwritten e supply disk precedes failure backed =>
      rcases hwrites with hmemory | hanswers
      · exact absurd (hbacking.trans hmemory) backed
      · have hlast := List.mem_append_right trace (List.mem_singleton_self (call, .error e))
        exact absurd failure (hanswers _ hlast e rfl)
  | disturbance _ _ ih => exact ih hwrites

/-- A store in memory, whose clock goes on by milliseconds. -/
def blank : State := ⟨[], none, .regular 0 1000, .empty ⟨"/", ["data"]⟩⟩

/-- Two queries that share an identifier are imported. The last one is kept and gets another name.
It cannot get another identifier that way, so none is found under that. -/
theorem run_ledger_shared :
    ∃ trace t, Run blank trace t ∧ Ledger.Run blank.supply trace t.supply t.records ∧
      trace.map (fun entry => entry.2.map fun _ => ())
        = [.ok (), .ok (), .error (.queryNotFound "z")] ∧
      t.records.map (fun q => (q.id, q.attributes)) = [("a", [("name", .str "C")])] := by
  let shared := Value.array [.record [("id", .str "a"), ("name", .str "A")],
    .record [("id", .str "a"), ("name", .str "B")]]
  let other := Value.record [("id", .str "z"), ("name", .str "C")]
  have hrun := Run.call (.get (.str "z")) <| .call (.update (.str "a") other) <|
    .call (.importAll shared) (.start (s := blank))
  refine ⟨_, _, hrun, (run_ledger rfl hrun (.inl rfl)).1, ?_, ?_⟩
  · rfl
  · rfl

end

end DocView.Store
