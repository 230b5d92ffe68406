import DocView.Proofs.Store.Operation
import Mathlib.Order.Nat

/-!
# Calls of a store and their answers

Whoever uses a store sees its answers, in memory and on disk alike. A call either asks for records,
or gathers what it needs and commits other records. The commit is where the two kinds of store
differ: one in memory always keeps what it is given, and one on disk may fail to write it and then
keeps what it had.

What a call takes from the clock and from the generator of identifiers shows in the records, so the
supplies before and after a call are part of what is known about it.

## Main definitions

* `Store.Call`, `Store.Answer`, `Store.Call.run`
* `Store.Run` - calls with their answers, one after the other
* `Error.IsWriteFailure` - the failures of a commit
* `Supply.Precedes`, `Supply.Reads`, `Supply.Issues` - what was taken from a supply in between

## Main results

* `Store.commit_commits` - how a commit ends, on either kind of store
-/

namespace DocView

/-! ### What is taken from a supply -/

namespace Supply

/-- The same clock and the same generator, of which as much or more has been taken. -/
structure Precedes (s t : Supply) : Prop where
  /-- The clock is the same. -/
  clock : t.clock = s.clock
  /-- The generator is the same. -/
  ids : t.ids = s.ids
  /-- The clock goes on. -/
  readings : s.readings ≤ t.readings
  /-- The generator goes on. -/
  issued : s.issued ≤ t.issued

/-- A time stamp that was read between two supplies. -/
def Reads (s t : Supply) (now : String) : Prop :=
  ∃ n, s.readings ≤ n ∧ n < t.readings ∧ s.clock n = now

/-- An identifier that was issued between two supplies. -/
def Issues (s t : Supply) (id : String) : Prop :=
  ∃ n, s.issued ≤ n ∧ n < t.issued ∧ s.ids n = id

section

variable {s t u v : Supply} {now id : String}

theorem Precedes.refl (s : Supply) : s.Precedes s := ⟨rfl, rfl, le_rfl, le_rfl⟩

theorem Precedes.trans (h : s.Precedes t) (h' : t.Precedes u) : s.Precedes u :=
  ⟨h'.clock.trans h.clock, h'.ids.trans h.ids, h.readings.trans h'.readings,
    h.issued.trans h'.issued⟩

theorem Reads.mono (h : t.Reads u now) (hst : s.Precedes t) (huv : u.Precedes v) :
    s.Reads v now := by
  obtain ⟨n, hlow, hhigh, hnow⟩ := h
  exact ⟨n, hst.readings.trans hlow, hhigh.trans_le huv.readings, hst.clock ▸ hnow⟩

theorem Issues.mono (h : t.Issues u id) (hst : s.Precedes t) (huv : u.Precedes v) :
    s.Issues v id := by
  obtain ⟨n, hlow, hhigh, hid⟩ := h
  exact ⟨n, hst.issued.trans hlow, hhigh.trans_le huv.issued, hst.ids ▸ hid⟩

theorem precedes_now (s : Supply) : s.Precedes s.now.2 := ⟨rfl, rfl, Nat.le_succ _, le_rfl⟩

theorem reads_now (s : Supply) : s.Reads s.now.2 s.now.1 :=
  ⟨s.readings, le_rfl, Nat.lt_succ_self _, rfl⟩

theorem precedes_freshId (s : Supply) : s.Precedes s.freshId.2 := ⟨rfl, rfl, le_rfl, Nat.le_succ _⟩

theorem issues_freshId (s : Supply) : s.Issues s.freshId.2 s.freshId.1 :=
  ⟨s.issued, le_rfl, Nat.lt_succ_self _, rfl⟩

theorem le_firstUnused (s : Supply) (used : List String) (n : Nat) : n ≤ s.firstUnused used n := by
  fun_induction firstUnused s used n with
  | case1 _ _ ih => exact (Nat.le_succ _).trans ih
  | case2 => exact le_rfl

theorem precedes_unusedId (s : Supply) (used : List String) : s.Precedes (s.unusedId used).2 :=
  ⟨rfl, rfl, le_rfl, (s.le_firstUnused used s.issued).trans (Nat.le_succ _)⟩

theorem issues_unusedId (s : Supply) (used : List String) :
    s.Issues (s.unusedId used).2 (s.unusedId used).1 :=
  ⟨s.firstUnused used s.issued, s.le_firstUnused used s.issued, Nat.lt_succ_self _, rfl⟩

theorem Reads.ne_empty (h : s.Reads t now) : now ≠ "" := by
  obtain ⟨n, -, -, rfl⟩ := h
  exact s.clock_ne_empty n

end

end Supply

/-- The failures of a commit: the records have no encoding, or the file cannot be replaced. -/
def Error.IsWriteFailure : Error → Prop
  | .unencodable _ => True
  | .outOfRange _ => True
  | .storeUnwritable _ _ => True
  | _ => False

namespace Store

/-! ### Calls -/

/-- The calls of a store with what they are given. -/
inductive Call where
  | create (data : Value)
  | update (id data : Value)
  | delete (id : Value)
  | importAll (data : Value)
  | get (id : Value)
  | list
  | exportAll
  | size

/-- What a call answers. -/
inductive Answer where
  | record (q : SavedQuery)
  | records (qs : List SavedQuery)
  | value (v : Value)
  | count (n : Nat)

/-- A call as a step of the store. -/
def Call.action : Call → Action Answer
  | .create data => do return .record (← Store.create data)
  | .update id data => do return .record (← Store.update id data)
  | .delete id => do return .record (← Store.delete id)
  | .importAll data => do return .count (← Store.importAll data)
  | .get id => do return .record (← fetch id)
  | .list => do return .records (← getThe State).records
  | .exportAll => do return .value (exported (← getThe State).records)
  | .size => do return .count (← getThe State).records.length

/-- Makes a call. -/
def Call.run (call : Call) (s : State) : Result Answer × State := call.action.apply s

/-- Calls with their answers, one after the other. Between two calls others may do to the disk
whatever they like. -/
inductive Run (s : State) : List (Call × Result Answer) → State → Prop
  | start : Run s [] s
  | call {trace : List (Call × Result Answer)} {t : State} (call : Call) (run : Run s trace t) :
    Run s (trace ++ [(call, (call.run t).1)]) (call.run t).2
  | disturbance {trace : List (Call × Result Answer)} {t : State} (disk : Disk)
    (run : Run s trace t) : Run s trace { t with disk := disk }

/-! ### Commits -/

/-- How a commit ends. -/
inductive Commits (s : State) (records : List SavedQuery) : Result Unit × State → Prop
  /-- The records are kept. -/
  | kept (disk : Disk) : Commits s records (.ok (), { s with records := records, disk := disk })
  /-- They could not be written to the file that there is. -/
  | unwritten {e : Error} (disk : Disk) (failure : e.IsWriteFailure) (backed : s.backing ≠ none) :
    Commits s records (.error e, { s with disk := disk })

theorem isWriteFailure_of_encode {format : Format} {v : Value} {e : Error}
    (h : format.encode v = .error e) : e.IsWriteFailure := by
  cases format with
  | json =>
    rw [Format.encode] at h
    split at h
    · cases h
    · cases h
      trivial
  | messagePack =>
    rw [Format.encode] at h
    split at h <;> cases h <;> trivial

/-- **How a commit ends**, on either kind of store. -/
theorem commit_commits (s : State) (records : List SavedQuery) :
    Commits s records ((commit records).apply s) := by
  cases hb : s.backing with
  | none =>
    have hcommit : (commit records).apply s = (.ok (), { s with records := records }) := by
      simp only [commit, Action.apply_bind, Action.apply_get, hb, Action.apply_modify]
    rw [hcommit]
    exact .kept s.disk
  | some b =>
    have hbacked : s.backing ≠ none := fun h => by simp [hb] at h
    rw [commit_apply hb]
    cases encoded : b.format.encode (exported records) with
    | error e =>
      rw [persist_unencodable encoded]
      exact .unwritten s.disk (isWriteFailure_of_encode encoded) hbacked
    | ok bytes =>
      obtain ⟨r, disk, replaced⟩ : ∃ r disk, s.disk.replace b.path bytes = (r, disk) := ⟨_, _, rfl⟩
      cases r with
      | ok _ =>
        rw [persist_written encoded replaced]
        exact .kept disk
      | error reason =>
        rw [persist_unwritten encoded replaced]
        exact .unwritten disk trivial hbacked

/-! ### Running calls -/

namespace Action

variable {α β : Type}

theorem apply_get_bind (f : State → Action β) (s : State) :
    ((getThe State : Action State) >>= f).apply s = (f s).apply s :=
  apply_bind_ok (apply_get s)

theorem apply_draw_bind (g : Supply → α × Supply) (f : α → Action β) (s : State) :
    (draw g >>= f).apply s = (f (g s.supply).1).apply { s with supply := (g s.supply).2 } :=
  apply_bind_ok (apply_draw g s)

theorem apply_ofResult_bind (r : Result α) (f : α → Action β) (s : State) :
    (ofResult r >>= f).apply s = match r with
      | .ok a => (f a).apply s
      | .error e => (.error e, s) := by
  rw [apply_bind]
  cases r <;> rfl

end Action

end Store

end DocView
