import DocView.Proofs.Store.Ledger
import Mathlib.Data.List.TakeWhile

/-!
# Backup and restore

What a store exports, another store imports. The other way round there is more to it: an import
checks the identifiers of what it is given, reads them as text, and makes up what does not count,
so that records from elsewhere may be refused or come out changed. Records of a store are neither.
They came in through the same check or got their identifier from the generator, and what they
lacked has been made up already. That they are *portable* is an invariant of all calls, those that
fail included, and the steps of the plain list show it.

The generator of identifiers is the one thing from outside that matters here: what it hands out has
to pass the check, too. It hands out thirty-two hexadecimal digits.

## Main definitions

* `Store.IsHexId` - identifiers as the generator makes them
* `Store.Portable` - a record that an import accepts and leaves as it is

## Main results

* `Store.Run.portable` - all records of a store are portable
* `Store.importAll_exported` - what was exported is restored
-/

namespace DocView.Store

open SavedQuery (reserved)

/-! ### Identifiers -/

/-- Thirty-two hexadecimal digits with small letters. -/
def IsHexId (id : String) : Prop :=
  id.length = 32 ∧ ∀ c ∈ id.toList, c.isDigit = true ∨ 'a' ≤ c ∧ c ≤ 'f'

theorem isIdChar_of_hexDigit {c : Char} (h : c.isDigit = true ∨ 'a' ≤ c ∧ c ≤ 'f') :
    Argument.isIdChar c = true := by
  have halphanum : c.isAlphanum = true := by
    rcases h with hdigit | ⟨hlow, hhigh⟩
    · show (c.isAlpha || c.isDigit) = true
      rw [hdigit, Bool.or_true]
    · have hlower : c.isLower = true := by
        have hlarge : c.val ≥ 'a'.val := hlow
        have hsmall : c.val ≤ 'z'.val := UInt32.le_trans hhigh (by decide)
        show (decide (c.val ≥ 'a'.val) && decide (c.val ≤ 'z'.val)) = true
        rw [decide_eq_true hlarge, decide_eq_true hsmall, Bool.and_true]
      show ((c.isUpper || c.isLower) || c.isDigit) = true
      rw [hlower, Bool.or_true, Bool.true_or]
  rw [Argument.isIdChar, halphanum, Bool.true_or, Bool.true_or]

theorem isId_of_forall {cs : List Char} (hne : cs ≠ []) (h : ∀ c ∈ cs, Argument.isIdChar c = true) :
    Argument.isId cs = true := by
  have hcore : cs.takeWhile Argument.isIdChar = cs := List.takeWhile_eq_self_iff.mpr h
  have hrest : cs.dropWhile Argument.isIdChar = [] := List.dropWhile_eq_nil_iff.mpr h
  simp [Argument.isId, hcore, hrest, hne]

theorem queryId_of_isHexId {id : String} (h : IsHexId id) :
    Argument.queryId (.str id) = .ok id := by
  obtain ⟨hlength, hdigits⟩ := h
  have hne : id ≠ "" := by
    rintro rfl
    cases hlength
  have hshort : ¬ Argument.maxIdLength < id.length := by
    rw [hlength]
    decide
  have hchars : Argument.isId id.toList = true :=
    isId_of_forall (by simpa using hne) fun c hc => isIdChar_of_hexDigit (hdigits c hc)
  rw [Argument.queryId, if_neg hne, if_neg hshort, if_pos hchars]

/-- A text that is accepted is answered as it is, and is not empty. -/
theorem eq_of_queryId_eq_ok {s id : String} (h : Argument.queryId (.str s) = .ok id) :
    s = id ∧ s ≠ "" := by
  rw [Argument.queryId] at h
  split_ifs at h with hempty hlong hform
  exact ⟨Except.ok.inj h, hempty⟩

/-! ### Portable records -/

/-- A record that an import accepts and leaves as it is. -/
structure Portable (q : SavedQuery) : Prop where
  /-- Its flat form determines it. -/
  sound : q.Sound
  /-- Its identifier passes the check. -/
  accepted : Argument.queryId (.str q.id) = .ok q.id

section

variable {before after : Supply} {members : Members} {records : List SavedQuery} {q : SavedQuery}

/-- An imported record has the identifier that was accepted as a text, or one from the
generator. -/
theorem Restored.accepted_or_issued (h : Restored before after members q)
    (hchecked : AcceptsId members) :
    Argument.queryId (.str q.id) = .ok q.id ∨ before.Issues after q.id := by
  have hid := h.id
  split at hid
  next htruthy =>
    obtain ⟨id, hqueryId⟩ := hchecked (carriesId_of_truthy htruthy)
    rw [← hid] at hqueryId
    exact .inl ((eq_of_queryId_eq_ok hqueryId).1 ▸ hqueryId)
  next => exact .inr hid

theorem Restored.portable (h : Restored before after members q) (hchecked : AcceptsId members)
    (hids : ∀ id, before.Issues after id → IsHexId id) : Portable q := by
  have haccepted : Argument.queryId (.str q.id) = .ok q.id := by
    rcases h.accepted_or_issued hchecked with haccepted | hissued
    · exact haccepted
    · exact queryId_of_isHexId (hids q.id hissued)
  have hcreated : q.createdAt.truthy = true := by
    have hcreatedAt := h.createdAt
    by_cases hgiven : (Value.member members "createdAt").truthy = true
    · rw [if_pos hgiven] at hcreatedAt
      rwa [hcreatedAt]
    · rw [if_neg hgiven] at hcreatedAt
      obtain ⟨now, hread, hnow⟩ := hcreatedAt
      rw [hnow]
      exact bne_iff_ne.mpr hread.ne_empty
  refine ⟨⟨(eq_of_queryId_eq_ok haccepted).2, hcreated, ?_, ?_⟩, haccepted⟩
  · have hupdatedAt := h.updatedAt
    by_cases hgiven : (Value.member members "updatedAt").truthy = true
    · rw [if_pos hgiven] at hupdatedAt
      rwa [hupdatedAt]
    · rw [if_neg hgiven] at hupdatedAt
      rwa [hupdatedAt]
  · rw [h.attributes, ← authorMembers_eq_filter]
    exact SavedQuery.notMem_reserved_authorMembers members

theorem exists_of_forall₂ {given : List Members} {qs : List SavedQuery}
    (h : List.Forall₂ (Restored before after) given qs) (hq : q ∈ qs) :
    ∃ members ∈ given, Restored before after members q := by
  induction h with
  | nil => cases hq
  | @cons members first given rest hfirst _ ih =>
    rcases List.mem_cons.mp hq with rfl | hq
    · exact ⟨members, List.mem_cons_self, hfirst⟩
    · obtain ⟨members, hmembers, hrestored⟩ := ih hq
      exact ⟨members, List.mem_cons_of_mem _ hmembers, hrestored⟩

/-- **Every step of the list keeps its records portable**, if the identifiers that are issued on the
way are hexadecimal. -/
theorem Ledger.Step.portable {call : Call} {answer : Result Answer} {records' : List SavedQuery}
    (h : Ledger.Step before after records call answer records')
    (hids : ∀ id, before.Issues after id → IsHexId id) (hrecords : ∀ q ∈ records, Portable q) :
    ∀ q ∈ records', Portable q := by
  cases h with
  | @create data fields id now given issued unused read =>
    have haccepted := queryId_of_isHexId (hids id issued)
    have hnow : (Value.str now).truthy = true := bne_iff_ne.mpr read.ne_empty
    refine List.forall_mem_append.mpr ⟨hrecords, List.forall_mem_singleton.mpr ?_⟩
    exact ⟨⟨(eq_of_queryId_eq_ok haccepted).2, hnow, hnow, given.own⟩, haccepted⟩
  | @update data fields front old back attributes now found given overlaid read =>
    subst found
    obtain ⟨hfront, hcut⟩ := List.forall_mem_append.mp hrecords
    obtain ⟨hold, hback⟩ := List.forall_mem_cons.mp hcut
    have hnow : (Value.str now).truthy = true := bne_iff_ne.mpr read.ne_empty
    have hattributes : ∀ name ∈ Members.names attributes, name ∉ reserved := by
      intro name hname
      rw [overlaid.names] at hname
      rcases List.mem_append.mp hname with hname | hname
      · exact hold.sound.attributes name hname
      · exact given.own name (List.mem_of_mem_filter hname)
    refine List.forall_mem_append.mpr ⟨hfront, List.forall_mem_cons.mpr ⟨?_, hback⟩⟩
    exact ⟨⟨hold.sound.id_ne, hold.sound.createdAt, hnow, hattributes⟩, hold.accepted⟩
  | delete found =>
    subst found
    obtain ⟨hfront, hcut⟩ := List.forall_mem_append.mp hrecords
    exact List.forall_mem_append.mpr ⟨hfront, (List.forall_mem_cons.mp hcut).2⟩
  | importAll checked restored collected =>
    intro q hq
    obtain ⟨front, back, rfl, -⟩ := collected.last q hq
    obtain ⟨members, hmembers, hrestored⟩ :=
      exists_of_forall₂ restored (List.mem_append_right front List.mem_cons_self)
    exact hrestored.portable (acceptsId_of_records checked members hmembers) hids
  | _ => exact hrecords

end

/-- **All records of a store are portable.** -/
theorem Run.portable {s t : State} {trace : List (Call × Result Answer)} (hempty : s.records = [])
    (h : Run s trace t) (hids : ∀ id, s.supply.Issues t.supply id → IsHexId id) :
    ∀ q ∈ t.records, Portable q := by
  have hnd : (ids s.records).Nodup := by
    rw [hempty]
    exact List.nodup_nil
  induction h with
  | start =>
    rw [hempty]
    exact List.forall_mem_nil _
  | @call trace t call run ih =>
    obtain ⟨htnd, -, hprecedes⟩ := run.invariant hnd
    have htakes := call.takes t htnd
    have hbefore := ih fun id hid => hids id (hid.mono (.refl _) htakes.precedes)
    have hissued : ∀ id, t.supply.Issues (call.run t).2.supply id → IsHexId id :=
      fun id hid => hids id (hid.mono hprecedes (.refl _))
    generalize call.run t = o at htakes hissued ⊢
    cases htakes with
    | step _ step => exact step.portable hissued hbefore
    | unwritten => exact hbefore
  | disturbance _ _ ih => exact ih hids

/-! ### Restoring -/

section

variable {records : List SavedQuery}

theorem record_toMembers {q : SavedQuery} (h : Portable q) (index : Nat) :
    Argument.record index q.toValue = .ok q.toMembers := by
  have hid : Value.member q.toMembers "id" = .str q.id := rfl
  rw [SavedQuery.toValue, Value.record, Argument.record]
  simp only [hid]
  split
  · exact bind_eq_ok.mpr ⟨q.id, h.accepted, rfl⟩
  · rfl

theorem recordsFrom_map_toValue (h : ∀ q ∈ records, Portable q) (index : Nat) :
    Argument.recordsFrom index (records.map SavedQuery.toValue)
      = .ok (records.map SavedQuery.toMembers) := by
  induction records generalizing index with
  | nil => rfl
  | cons q rest ih =>
    obtain ⟨hq, hrest⟩ := List.forall_mem_cons.mp h
    exact bind_eq_ok.mpr ⟨_, record_toMembers hq index,
      bind_eq_ok.mpr ⟨_, ih hrest (index + 1), rfl⟩⟩

theorem recordsOf_map_toMembers (h : ∀ q ∈ records, q.Sound) (supply : Supply) :
    (recordsOf (records.map SavedQuery.toMembers) supply).1 = records := by
  induction records generalizing supply with
  | nil => rfl
  | cons q rest ih =>
    obtain ⟨hq, hrest⟩ := List.forall_mem_cons.mp h
    rw [List.map_cons, recordsOf, SavedQuery.ofMembers_toMembers hq]
    exact congrArg (q :: ·) (ih hrest supply.now.2)

/-- An import of what is accepted restores each record, collects them and answers how many there
are, or fails to write them. -/
theorem run_importAll {data : Value} {given : List Members}
    (hgiven : Argument.records data = .ok given) (t : State) :
    (∃ disk, (Call.importAll data).run t
      = (.ok (.count (collect (recordsOf given t.supply).1).length),
        { t with
          records := collect (recordsOf given t.supply).1
          supply := (recordsOf given t.supply).2
          disk := disk })) ∨
    t.backing ≠ none ∧ ∃ e, e.IsWriteFailure ∧ ((Call.importAll data).run t).1 = .error e := by
  have hcommits := commit_commits { t with supply := (recordsOf given t.supply).2 }
    (collect (recordsOf given t.supply).1)
  simp only [Call.run, Call.action, importAll, bind_assoc, pure_bind, Action.apply_ofResult_bind,
    hgiven, Action.apply_draw_bind]
  rw [Action.apply_bind]
  generalize (commit _).apply _ = o at hcommits ⊢
  cases hcommits with
  | kept disk => exact .inl ⟨disk, rfl⟩
  | @unwritten e disk failure backed => exact .inr ⟨backed, e, failure, rfl⟩

/-- An import of portable records with distinct identifiers keeps just these, or fails to write
them. -/
theorem run_importAll_exported (hnd : (ids records).Nodup) (h : ∀ q ∈ records, Portable q)
    (t : State) :
    (∃ supply disk, (Call.importAll (exported records)).run t
      = (.ok (.count records.length),
        { t with records := records, supply := supply, disk := disk })) ∨
    t.backing ≠ none ∧ ∃ e, e.IsWriteFailure ∧
      ((Call.importAll (exported records)).run t).1 = .error e := by
  have hchecked : Argument.records (exported records) = .ok (records.map SavedQuery.toMembers) :=
    recordsFrom_map_toValue h 0
  have hkept : collect (recordsOf (records.map SavedQuery.toMembers) t.supply).1 = records := by
    rw [recordsOf_map_toMembers fun q hq => (h q hq).sound, collect_eq_self hnd]
  rcases run_importAll hchecked t with ⟨disk, hrun⟩ | hunwritten
  · rw [hkept] at hrun
    exact .inl ⟨_, disk, hrun⟩
  · exact .inr hunwritten

end

/-- **What was exported is restored.** Let any calls be made on a store that begins without records,
successful or not, and let the identifiers that the generator hands out on the way be hexadecimal.
Then another store, whatever it holds, accepts what the first one exports, unless it keeps its
records in a file that cannot be written. It answers how many records the first store has. From
then on it has the same records in the same order, and exports the same. -/
theorem importAll_exported {s₀ s t : State} {trace : List (Call × Result Answer)}
    (hempty : s₀.records = []) (hrun : Run s₀ trace s)
    (hids : ∀ id, s₀.supply.Issues s.supply id → IsHexId id) {backup : Value}
    (hexport : (Call.exportAll.run s).1 = .ok (.value backup))
    (hwrite : t.backing = none ∨
      ∀ e, ((Call.importAll backup).run t).1 = .error e → ¬ e.IsWriteFailure) :
    ((Call.importAll backup).run t).1 = (Call.size.run s).1 ∧
      (Call.exportAll.run ((Call.importAll backup).run t).2).1 = .ok (.value backup) ∧
      ((Call.importAll backup).run t).2.records = s.records := by
  obtain rfl : exported s.records = backup := by
    cases hexport
    rfl
  have hnd : (ids s.records).Nodup := (hrun.invariant (by rw [hempty]; exact List.nodup_nil)).1
  rcases run_importAll_exported hnd (hrun.portable hempty hids) t with
    ⟨supply, disk, hkept⟩ | ⟨hbacked, e, failure, herror⟩
  · rw [hkept]
    exact ⟨rfl, rfl, rfl⟩
  · rcases hwrite with hmemory | hanswer
    · exact absurd hmemory hbacked
    · exact absurd failure (hanswer e herror)

/-- A query without an identifier gets one when it is imported, and keeps it in another store that
held a query before. -/
theorem importAll_exported_fresh :
    let s := ((Call.importAll (.array [.record [("name", .str "A")]])).run blank).2
    let t := ((Call.importAll (.array [.record [("id", .str "b")]])).run blank).2
    ids t.records = ["b"] ∧
      ids ((Call.importAll (exported s.records)).run t).2.records
        = ["00000000000000000000000000000001"] := by
  intro s t
  have hrun : Run blank _ s := .call _ .start
  have hids : ∀ id, blank.supply.Issues s.supply id → IsHexId id := by
    rintro id ⟨n, -, hn, rfl⟩
    obtain rfl : n = 0 := Nat.lt_one_iff.mp hn
    have hdigits : (blank.supply.ids 0).toList.all Char.isDigit = true := rfl
    exact ⟨rfl, fun c hc => .inl (List.all_eq_true.mp hdigits c hc)⟩
  have hexport : (Call.exportAll.run s).1 = .ok (.value (exported s.records)) := rfl
  have hmemory : t.backing = none := rfl
  obtain ⟨-, -, hrecords⟩ := importAll_exported rfl hrun hids hexport (.inl hmemory)
  refine ⟨rfl, ?_⟩
  rw [hrecords]
  rfl

end DocView.Store
