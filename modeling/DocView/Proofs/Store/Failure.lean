import DocView.Proofs.Store.Atomicity
import DocView.Proofs.Store.Call

/-!
# Failures on either kind of store

A store in memory has less to go wrong than one on disk, since its commits do not fail; and what
does go wrong there goes wrong before the commit. So the two kinds of store have one contract, as
long as nobody asks for the file to be read again: an operation fails and keeps everything, or it
succeeds and the records are those that it proposed.

## Main definitions

* `Store.Kept` - a store that was left as it was
* `Store.Settles` - the contract

## Main results

* `Store.run_settles` - every operation keeps it, on either kind of store
-/

namespace DocView.Store

open Disk (draft)

variable {s t : State} {op : Operation}

/-- A store that was left as it was. At most a draft of its file was touched. -/
structure Kept (s t : State) : Prop where
  /-- The records are the same, in the same order. -/
  records : t.records = s.records
  /-- The file of the store, if it has one, is still its file. -/
  backing : t.backing = s.backing
  /-- That file has the same bytes. -/
  file : ∀ b, s.backing = some b → t.disk.file? b.path = s.disk.file? b.path
  /-- So have all other files. -/
  others : ∀ p, (∀ b, s.backing = some b → p ≠ draft b.path) → t.disk.file? p = s.disk.file? p

theorem Kept.refl (s : State) : Kept s s := ⟨rfl, rfl, fun _ _ => rfl, fun _ _ => rfl⟩

/-- Drawing on the supply leaves a store as it was. -/
theorem kept_supply (s : State) (supply : Supply) : Kept s { s with supply := supply } :=
  ⟨rfl, rfl, fun _ _ => rfl, fun _ _ => rfl⟩

theorem Spared.kept {b : Backing} (h : Spared b s t) (hs : s.backing = some b)
    (ht : t.backing = s.backing) : Kept s t where
  records := h.records
  backing := ht
  file := by
    intro b' hb'
    obtain rfl := Option.some.inj (hs.symm.trans hb')
    exact h.file
  others := fun p hp => h.others p (hp b hs)

/-- An operation fails and keeps everything, or it succeeds with what it proposed. -/
inductive Settles (s : State) (op : Operation) : Result Unit × State → Prop
  | failed {e : Error} {t : State} (kept : Kept s t) : Settles s op (.error e, t)
  | done {t : State} (proposed : Proposes s op t.records) (backing : t.backing = s.backing) :
    Settles s op (.ok (), t)

theorem Ends.settles {b : Backing} {o : Result Unit × State} (h : Ends b s op o)
    (hb : s.backing = some b) (hop : op ≠ .reload) : Settles s op o := by
  have hspared : ∀ e, o.1 = .error e → Spared b s o.2 := fun _ => h.spared
  cases h with
  | refused => exact .failed ((hspared _ rfl).kept hb rfl)
  | unwritten => exact .failed ((hspared _ rfl).kept hb rfl)
  | written proposed => exact .done proposed rfl
  | reloaded reload => exact absurd reload hop

/-- A commit in memory does not fail. -/
theorem Gathers.settles {o : Result Unit × State} (h : Gathers s op o) (hs : s.backing = none) :
    Settles s op o := by
  cases h with
  | refused => exact .failed (kept_supply s _)
  | @commits supply records proposed =>
    have hcommits := commit_commits { s with supply := supply } records
    generalize (commit records).apply { s with supply := supply } = o at hcommits ⊢
    cases hcommits with
    | kept disk => exact .done proposed rfl
    | unwritten _ _ backed => exact absurd hs backed

/-- **How an operation ends on either kind of store**, unless it reads the file again. -/
theorem run_settles (s : State) (hop : op ≠ .reload) : Settles s op (op.run s) := by
  cases hs : s.backing with
  | none => exact (run_gathers s hop).settles hs
  | some b => exact (run_ends hs op).settles hs hop

end DocView.Store
