import DocView.Proofs.Store.Operation

/-!
# The states of a store

A store on disk begins by being opened. From then on operations are run on it, some of which
fail, and the disk is not its own: between two operations it may fill up, become unreadable, or be
written to by others. What others may do is a parameter here, since it differs from one property
to the next, and so is what kind of records the store is used for.

## Main definitions

* `Store.Reaches` - the states that a store comes to

## Main results

* `Store.openFile_eq_ok` - what opening a store consists of
* `Store.Reaches.backing_eq` - a store keeps its file
-/

namespace DocView.Store

variable {b : Backing} {s t : State}

/-! ### Opening -/

/-- Opening ends with reading the file, and from then on it is the file of the store. -/
theorem load_then_keep {unpack : Unpacker} (h : (do
      load b unpack
      modify fun s => { s with backing := some b } : Action Unit).apply s = (.ok (), t)) :
    ∃ bytes items records supply, s.disk.read b.path = .ok bytes ∧
      b.format.decode bytes unpack = .ok items ∧
      (loadRecords items).apply s = (.ok records, { s with supply := supply }) ∧
      t = ⟨collect records, some b, supply, s.disk⟩ := by
  rcases load_cases b unpack s with ⟨e, supply, hload⟩ |
    ⟨bytes, items, records, supply, readable, decoded, loaded⟩
  · rw [Action.apply_bind_error hload] at h
    cases h
  · rw [Action.apply_bind_ok (load_apply readable decoded loaded)] at h
    cases h
    exact ⟨bytes, items, records, supply, readable, decoded, loaded, rfl⟩

/-- **What opening a store consists of.** The file is there or is created without records, and then
it is read. -/
theorem openFile_eq_ok {createIfMissing : Bool} {unpack : Unpacker}
    (h : (openFile b createIfMissing unpack).apply s = (.ok (), t)) :
    ∃ disk, (s.disk.has b.path = true ∧ disk = s.disk ∨
        s.disk.has b.path = false ∧ ∃ bytes, b.format.encode (exported []) = .ok bytes ∧
          (s.disk.makeDirectories b.path).replace b.path bytes = (.ok (), disk)) ∧
      ∃ bytes items records supply, disk.read b.path = .ok bytes ∧
        b.format.decode bytes unpack = .ok items ∧
        (loadRecords items).apply { s with disk := disk }
          = (.ok records, { s with disk := disk, supply := supply }) ∧
        t = ⟨collect records, some b, supply, disk⟩ := by
  rw [openFile, Action.apply_bind_ok (Action.apply_get s)] at h
  cases hfile : s.disk.has b.path with
  | true =>
    simp only [hfile, Bool.not_true, Bool.false_eq_true, if_false] at h
    exact ⟨s.disk, .inl ⟨rfl, rfl⟩, load_then_keep h⟩
  | false =>
    cases createIfMissing with
    | false =>
      simp only [hfile, Bool.not_false, if_true] at h
      rw [Action.apply_bind_error (Action.apply_throw _ s)] at h
      cases h
    | true =>
      simp only [hfile, Bool.not_false, Bool.not_true, Bool.false_eq_true, if_true, if_false] at h
      rw [Action.apply_bind_ok (Action.apply_modify _ s)] at h
      let made : State := { s with disk := s.disk.makeDirectories b.path }
      cases encoded : b.format.encode (exported []) with
      | error e =>
        rw [Action.apply_bind_error (persist_unencodable encoded)] at h
        cases h
      | ok bytes =>
        match replaced : made.disk.replace b.path bytes with
        | (.ok (), disk) =>
          rw [Action.apply_bind_ok (persist_written (s := made) encoded replaced)] at h
          exact ⟨disk, .inr ⟨rfl, bytes, rfl, replaced⟩, load_then_keep h⟩
        | (.error reason, disk) =>
          rw [Action.apply_bind_error (persist_unwritten (s := made) encoded replaced)] at h
          cases h

/-- A file that is there is opened by reading it. -/
theorem openFile_apply {createIfMissing : Bool} {bytes : List UInt8} {items : List Value}
    {records : List SavedQuery} {supply : Supply} (hfile : s.disk.has b.path = true)
    (readable : s.disk.read b.path = .ok bytes) (decoded : b.format.decode bytes = .ok items)
    (loaded : (loadRecords items).apply s = (.ok records, { s with supply := supply })) :
    (openFile b createIfMissing).apply s = (.ok (), ⟨collect records, some b, supply, s.disk⟩) := by
  rw [openFile, Action.apply_bind_ok (Action.apply_get s)]
  simp only [hfile, Bool.not_true, Bool.false_eq_true, if_false]
  rw [Action.apply_bind_ok (load_apply readable decoded loaded), Action.apply_modify]

/-! ### Running -/

/-- The states that a store comes to from one state. Operations are run, after which the records
fit, and others change the disk. -/
inductive Reaches (others : Disk → Disk → Prop) (fits : List SavedQuery → Prop) (s : State) :
    State → Prop
  | start : Reaches others fits s s
  | operation {u : State} (op : Operation) (reached : Reaches others fits s u)
    (fitting : fits (op.run u).2.records) : Reaches others fits s (op.run u).2
  | disturbance {u : State} {disk : Disk} (reached : Reaches others fits s u)
    (allowed : others u.disk disk) : Reaches others fits s { u with disk := disk }

theorem Ends.backing_eq {op : Operation} {o : Result Unit × State} (h : Ends b s op o) :
    o.2.backing = s.backing := by
  cases h <;> rfl

/-- **A store keeps its file.** -/
theorem Reaches.backing_eq {others : Disk → Disk → Prop} {fits : List SavedQuery → Prop}
    (h : Reaches others fits s t) (hb : s.backing = some b) : t.backing = some b := by
  induction h with
  | start => exact hb
  | operation op _ _ ih => exact (run_ends ih op).backing_eq.trans ih
  | disturbance _ _ ih => exact ih

end DocView.Store
