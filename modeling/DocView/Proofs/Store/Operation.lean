import DocView.Proofs.Result
import DocView.Proofs.Store.Disk
import DocView.Store.Basic

/-!
# What an operation of a store comes to

An operation gathers what it needs, proposes the records that are to be kept, and leaves the rest
to `commit`. So there are few ways for it to end. It may be refused before anything is written,
because an argument is refused, because a record is not there, or because a record has no encoding;
the supply may have been drawn on by then, but that is all. It may find that the file cannot be
replaced. Or the file is replaced and the proposed records are kept. Only `reload` goes another
way: it writes nothing and takes the records from the file.

`run_ends` says this once, with everything that is known in each case. Properties of the store are
proved by going through the cases of `Ends` and do not look at the operations again.

## Main definitions

* `Store.Operation`, `Store.Operation.run` - the operations that change a store
* `Store.Proposes` - the records that an operation wants to keep
* `Store.Gathers` - what an operation that writes comes to
* `Store.Ends` - how an operation of a store on disk ends

## Main results

* `Store.run_gathers` - an operation that writes is refused or commits what it proposes
* `Store.run_ends` - on disk, every operation ends in one of these ways
-/

namespace DocView.Store

/-! ### Running actions -/

namespace Action

variable {α β : Type}

theorem apply_bind (x : Action α) (f : α → Action β) (s : State) :
    (x >>= f).apply s = match x.apply s with
      | (.ok a, t) => (f a).apply t
      | (.error e, t) => (.error e, t) := by
  unfold apply ExceptT.run StateT.run
  simp only [bind, ExceptT.bind, ExceptT.mk, StateT.bind]
  cases x s with
  | mk r t => cases r <;> rfl

theorem apply_bind_ok {x : Action α} {f : α → Action β} {s t : State} {a : α}
    (h : x.apply s = (.ok a, t)) : (x >>= f).apply s = (f a).apply t := by
  rw [apply_bind, h]

theorem apply_bind_error {x : Action α} {f : α → Action β} {s t : State} {e : Error}
    (h : x.apply s = (.error e, t)) : (x >>= f).apply s = (.error e, t) := by
  rw [apply_bind, h]

@[simp] theorem apply_throw (e : Error) (s : State) :
    (throw e : Action α).apply s = (.error e, s) := rfl

@[simp] theorem apply_get (s : State) : (getThe State : Action State).apply s = (.ok s, s) := rfl

@[simp] theorem apply_modify (f : State → State) (s : State) :
    (modify f : Action Unit).apply s = (.ok (), f s) := rfl

@[simp] theorem apply_ofResult (r : Result α) (s : State) : (ofResult r).apply s = (r, s) := rfl

@[simp] theorem apply_draw (f : Supply → α × Supply) (s : State) :
    (draw f).apply s = (.ok (f s.supply).1, { s with supply := (f s.supply).2 }) := rfl

/-- Whether an action succeeds, and the state after it. -/
def outcome (x : Action α) (s : State) : Result Unit × State :=
  ((x.apply s).1.map fun _ => (), (x.apply s).2)

theorem outcome_bind (x : Action α) (f : α → Action β) (s : State) :
    (x >>= f).outcome s = match x.apply s with
      | (.ok a, t) => (f a).outcome t
      | (.error e, t) => (.error e, t) := by
  unfold outcome
  rw [apply_bind]
  cases x.apply s with
  | mk r t => cases r <;> rfl

theorem outcome_get_bind (f : State → Action β) (s : State) :
    ((getThe State : Action State) >>= f).outcome s = (f s).outcome s :=
  outcome_bind _ f s

theorem outcome_draw_bind (g : Supply → α × Supply) (f : α → Action β) (s : State) :
    (draw g >>= f).outcome s
      = (f (g s.supply).1).outcome { s with supply := (g s.supply).2 } :=
  outcome_bind _ f s

theorem outcome_ofResult_bind (r : Result α) (f : α → Action β) (s : State) :
    (ofResult r >>= f).outcome s = match r with
      | .ok a => (f a).outcome s
      | .error e => (.error e, s) := by
  rw [outcome_bind]
  cases r <;> rfl

end Action

/-! ### Operations -/

/-- The operations that change a store, with what they are given. -/
inductive Operation where
  | create (data : Value)
  | update (id data : Value)
  | delete (id : Value)
  | importAll (data : Value)
  | reload

/-- Runs an operation. -/
def Operation.run : Operation → State → Result Unit × State
  | .create data => (Store.create data).outcome
  | .update id data => (Store.update id data).outcome
  | .delete id => (Store.delete id).outcome
  | .importAll data => (Store.importAll data).outcome
  | .reload => Store.reload.outcome

/-- The records that an operation wants to keep. -/
inductive Proposes (s : State) : Operation → List SavedQuery → Prop
  /-- One record more, with an identifier that is not in use. -/
  | create {data attributes id now} (given : givenMembers data = .ok attributes)
    (unused : id ∉ ids s.records) (id_ne : id ≠ "") (now_ne : now ≠ "") :
    Proposes s (.create data) (s.records ++ [⟨id, .str now, .str now, attributes⟩])
  /-- A record with new members in the place of the old one. -/
  | update {id data old members now} (found : lookUp s.records id = .ok old)
    (given : givenMembers data = .ok members) (now_ne : now ≠ "") :
    Proposes s (.update id data) (put s.records { old with
      updatedAt := .str now, attributes := Members.overlay old.attributes members })
  /-- One record less. -/
  | delete {id old} (found : lookUp s.records id = .ok old) :
    Proposes s (.delete id) (s.records.filter fun r => r.id != old.id)
  /-- Other records. -/
  | importAll {data given} (checked : Argument.records data = .ok given) :
    Proposes s (.importAll data) (collect (recordsOf given s.supply).1)

/-- What an operation that writes comes to: it is refused, or it commits what it proposes. It may
have drawn on the supply by then. -/
inductive Gathers (s : State) (op : Operation) : Result Unit × State → Prop
  | refused {e supply} : Gathers s op (.error e, { s with supply := supply })
  | commits {supply records} (proposed : Proposes s op records) :
    Gathers s op ((commit records).apply { s with supply := supply })

/-- How an operation of a store on disk ends. -/
inductive Ends (b : Backing) (s : State) (op : Operation) : Result Unit × State → Prop
  /-- Nothing was written. -/
  | refused {e supply} : Ends b s op (.error e, { s with supply := supply })
  /-- The file could not be replaced. -/
  | unwritten {supply records bytes reason disk} (proposed : Proposes s op records)
    (failed : s.disk.replace b.path bytes = (.error reason, disk)) :
    Ends b s op (.error (.storeUnwritable b.path.text reason),
      { s with supply := supply, disk := disk })
  /-- The records were written and are kept. -/
  | written {supply records bytes disk} (proposed : Proposes s op records)
    (encoded : b.format.encode (exported records) = .ok bytes)
    (replaced : s.disk.replace b.path bytes = (.ok (), disk)) :
    Ends b s op (.ok (), { s with supply := supply, records := records, disk := disk })
  /-- The records were read and are kept. -/
  | reloaded {supply bytes items records} (reload : op = .reload)
    (readable : s.disk.read b.path = .ok bytes) (decoded : b.format.decode bytes = .ok items)
    (loaded : (loadRecords items).apply s = (.ok records, { s with supply := supply })) :
    Ends b s op (.ok (), { s with supply := supply, records := collect records })

section

variable {b : Backing} {s : State} {op : Operation} {supply : Supply}

/-! ### Writing the file -/

theorem persist_unencodable {records : List SavedQuery} {e : Error}
    (h : b.format.encode (exported records) = .error e) :
    (persist b records).apply s = (.error e, s) := by
  show persist b records s = _
  rw [persist, h]

theorem persist_unwritten {records : List SavedQuery} {bytes : List UInt8} {reason : String}
    {disk : Disk} (h : b.format.encode (exported records) = .ok bytes)
    (hdisk : s.disk.replace b.path bytes = (.error reason, disk)) :
    (persist b records).apply s
      = (.error (.storeUnwritable b.path.text reason), { s with disk := disk }) := by
  show persist b records s = _
  rw [persist, h]
  simp only [hdisk]

theorem persist_written {records : List SavedQuery} {bytes : List UInt8} {disk : Disk}
    (h : b.format.encode (exported records) = .ok bytes)
    (hdisk : s.disk.replace b.path bytes = (.ok (), disk)) :
    (persist b records).apply s = (.ok (), { s with disk := disk }) := by
  show persist b records s = _
  rw [persist, h]
  simp only [hdisk]

/-- On a store on disk, what is proposed is written before it is kept. -/
theorem commit_apply (hb : s.backing = some b) (records : List SavedQuery) :
    (commit records).apply s = match (persist b records).apply s with
      | (.ok _, t) => (.ok (), { t with records := records })
      | (.error e, t) => (.error e, t) := by
  simp only [commit, Action.apply_bind, Action.apply_get, hb, Action.apply_modify]
  cases (persist b records).apply s with
  | mk r t => cases r <;> rfl

theorem commit_ends (hb : s.backing = some b) {records : List SavedQuery}
    (proposed : Proposes s op records) (supply : Supply) :
    Ends b s op ((commit records).apply { s with supply := supply }) := by
  -- The supply was drawn on before, so the commit starts from another state than the operation.
  let t : State := { s with supply := supply }
  have hcommit := commit_apply (s := t) hb records
  cases encoded : b.format.encode (exported records) with
  | error e =>
    rw [hcommit, persist_unencodable encoded]
    exact .refused
  | ok bytes =>
    match replaced : t.disk.replace b.path bytes with
    | (.ok (), disk) =>
      rw [hcommit, persist_written encoded replaced]
      exact .written proposed encoded replaced
    | (.error reason, disk) =>
      rw [hcommit, persist_unwritten encoded replaced]
      exact .unwritten proposed replaced

/-! ### Gathering -/

/-- An operation that commits what it proposes, and then does nothing that could fail. -/
theorem gathers_commit {α : Type} {records : List SavedQuery} {f : Unit → Action α}
    (proposed : Proposes s op records) (hf : ∀ t, (f ()).outcome t = (.ok (), t)) :
    Gathers s op ((commit records >>= f).outcome { s with supply := supply }) := by
  have hcommit : (commit records >>= f).outcome { s with supply := supply }
      = (commit records).apply { s with supply := supply } := by
    rw [Action.outcome_bind]
    cases (commit records).apply { s with supply := supply } with
    | mk r t =>
      cases r with
      | ok _ => exact hf t
      | error e => rfl
  rw [hcommit]
  exact .commits proposed

theorem create_gathers (s : State) (data : Value) :
    Gathers s (.create data) ((Operation.create data).run s) := by
  simp only [Operation.run, create, Action.outcome_draw_bind, Action.outcome_get_bind,
    Action.outcome_ofResult_bind]
  cases given : givenMembers data with
  | error e => exact .refused
  | ok attributes =>
    have proposed := Proposes.create given (Supply.unusedId_notMem s.supply.now.2 (ids s.records))
      (Supply.ids_ne_empty _ _) (Supply.clock_ne_empty s.supply s.supply.readings)
    exact gathers_commit proposed fun _ => rfl

theorem update_gathers (s : State) (id data : Value) :
    Gathers s (.update id data) ((Operation.update id data).run s) := by
  simp only [Operation.run, update, Action.outcome_draw_bind, Action.outcome_get_bind,
    Action.outcome_ofResult_bind]
  cases found : lookUp s.records id with
  | error e => exact .refused
  | ok old =>
    cases given : givenMembers data with
    | error e => exact .refused
    | ok members =>
      have proposed := Proposes.update found given
        (Supply.clock_ne_empty s.supply s.supply.readings)
      exact gathers_commit proposed fun _ => rfl

theorem delete_gathers (s : State) (id : Value) :
    Gathers s (.delete id) ((Operation.delete id).run s) := by
  simp only [Operation.run, delete, Action.outcome_get_bind, Action.outcome_ofResult_bind]
  cases found : lookUp s.records id with
  | error e => exact .refused
  | ok old => exact gathers_commit (.delete found) fun _ => rfl

theorem importAll_gathers (s : State) (data : Value) :
    Gathers s (.importAll data) ((Operation.importAll data).run s) := by
  simp only [Operation.run, importAll, Action.outcome_draw_bind, Action.outcome_ofResult_bind]
  cases checked : Argument.records data with
  | error e => exact .refused
  | ok given => exact gathers_commit (.importAll checked) fun _ => rfl

/-- **What an operation that writes comes to**, whatever kind of store it is run on. -/
theorem run_gathers (s : State) (hop : op ≠ .reload) : Gathers s op (op.run s) := by
  cases op with
  | create data => exact create_gathers s data
  | update id data => exact update_gathers s id data
  | delete id => exact delete_gathers s id
  | importAll data => exact importAll_gathers s data
  | reload => contradiction

theorem Gathers.ends {o : Result Unit × State} (h : Gathers s op o) (hb : s.backing = some b) :
    Ends b s op o := by
  cases h with
  | refused => exact .refused
  | commits proposed => exact commit_ends hb proposed _

/-! ### Reading the file -/

/-- Reading records draws on the supply and does nothing else. -/
theorem loadRecords_apply (items : List Value) (s : State) :
    ∃ r supply, (loadRecords items).apply s = (r, { s with supply := supply }) := by
  induction items generalizing s with
  | nil => exact ⟨_, _, rfl⟩
  | cons v rest ih =>
    rw [loadRecords]
    cases v.members? with
    | error e => exact ⟨_, _, rfl⟩
    | ok members =>
      simp only [Action.apply_bind, Action.apply_draw]
      obtain ⟨r, supply, hrest⟩ := ih { s with supply := (SavedQuery.ofMembers members s.supply).2 }
      rw [hrest]
      cases r with
      | error e => exact ⟨_, _, rfl⟩
      | ok records => exact ⟨_, _, rfl⟩

/-- A file that can be read, decoded and taken apart is loaded. -/
theorem load_apply {unpack : Unpacker} {bytes : List UInt8} {items : List Value}
    {records : List SavedQuery} (readable : s.disk.read b.path = .ok bytes)
    (decoded : b.format.decode bytes unpack = .ok items)
    (loaded : (loadRecords items).apply s = (.ok records, { s with supply := supply })) :
    (load b unpack).apply s
      = (.ok (), { s with supply := supply, records := collect records }) := by
  simp only [load, Action.apply_bind, Action.apply_get, readable, Action.apply_ofResult, decoded,
    loaded, Action.apply_modify]

/-- Loading fails without changing anything but the supply, or reads records and keeps them. -/
theorem load_cases (b : Backing) (unpack : Unpacker) (s : State) :
    (∃ e supply, (load b unpack).apply s = (.error e, { s with supply := supply })) ∨
      ∃ bytes items records supply, s.disk.read b.path = .ok bytes ∧
        b.format.decode bytes unpack = .ok items ∧
        (loadRecords items).apply s = (.ok records, { s with supply := supply }) := by
  cases readable : s.disk.read b.path with
  | error reason =>
    refine .inl ⟨.storeUnreadable b.path.text reason, s.supply, ?_⟩
    simp only [load, Action.apply_bind, Action.apply_get, readable, Action.apply_throw]
  | ok bytes =>
    cases decoded : b.format.decode bytes unpack with
    | error e =>
      refine .inl ⟨e, s.supply, ?_⟩
      simp only [load, Action.apply_bind, Action.apply_get, readable, Action.apply_ofResult,
        decoded]
    | ok items =>
      obtain ⟨r, supply, loaded⟩ := loadRecords_apply items s
      cases r with
      | error e =>
        refine .inl ⟨e, supply, ?_⟩
        simp only [load, Action.apply_bind, Action.apply_get, readable, Action.apply_ofResult,
          decoded, loaded]
      | ok records => exact .inr ⟨bytes, items, records, supply, rfl, decoded, loaded⟩

/-! ### All operations -/

theorem run_reload (hb : s.backing = some b) : Operation.reload.run s = (load b).outcome s := by
  simp only [Operation.run, reload, Action.outcome_get_bind, hb]

theorem reload_ends (hb : s.backing = some b) : Ends b s .reload (Operation.reload.run s) := by
  rw [run_reload hb, Action.outcome]
  rcases load_cases b .standard s with ⟨e, supply, h⟩ |
    ⟨bytes, items, records, supply, readable, decoded, loaded⟩
  · rw [h]
    exact .refused
  · rw [load_apply readable decoded loaded]
    exact .reloaded rfl readable decoded loaded

/-- **How an operation of a store on disk ends.** -/
theorem run_ends (hb : s.backing = some b) (op : Operation) : Ends b s op (op.run s) := by
  by_cases hop : op = .reload
  · exact hop ▸ reload_ends hb
  · exact (run_gathers s hop).ends hb

end

end DocView.Store
