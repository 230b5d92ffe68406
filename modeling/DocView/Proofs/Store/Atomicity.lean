import DocView.Proofs.Store.Reachable

/-!
# Operations that fail

An operation that fails leaves no trace but in the supply. Where it is refused before anything is
written, this is so because records change in one place only, after they are written. Where
writing fails, it is so because the file is replaced as a whole or not at all. A draft that is
found beside the file is not the concern of an operation that does not come to writing: it stays,
so that no draft is left only if none was there to begin with.

## Main definitions

* `Store.Spared` - a store to which nothing happened

## Main results

* `Store.run_error_spared` - what fails changes nothing
-/

namespace DocView.Store

open Disk (draft)

variable {b : Backing} {s t : State} {op : Operation}

/-- A store to which nothing happened: its records and all files are as they were, and if writing
was tried, then the draft is gone. -/
structure Spared (b : Backing) (s t : State) : Prop where
  /-- The records are the same, in the same order. -/
  records : t.records = s.records
  /-- The file of the store has the same bytes. -/
  file : t.disk.file? b.path = s.disk.file? b.path
  /-- So have all other files. -/
  others : ∀ p, p ≠ draft b.path → t.disk.file? p = s.disk.file? p
  /-- The draft was not touched or is gone. -/
  draft : t.disk = s.disk ∨ t.disk.file? (draft b.path) = none

theorem Ends.spared {e : Error} {o : Result Unit × State} (h : Ends b s op o)
    (herror : o.1 = .error e) : Spared b s o.2 := by
  cases h with
  | refused => exact ⟨rfl, rfl, fun _ _ => rfl, .inl rfl⟩
  | unwritten _ failed =>
    obtain ⟨hothers, hdraft⟩ := Disk.replace_error failed
    exact ⟨rfl, hothers b.path (Disk.draft_ne b.path).symm, hothers, .inr hdraft⟩
  -- In the other cases the operation has succeeded.
  | written => cases herror
  | reloaded => cases herror

/-- No operation leaves a draft behind. -/
theorem Ends.draft_eq_none {o : Result Unit × State} (h : Ends b s op o)
    (hdraft : s.disk.file? (draft b.path) = none) : o.2.disk.file? (draft b.path) = none := by
  cases h with
  | refused => exact hdraft
  | unwritten _ failed => exact (Disk.replace_error failed).2
  | written _ _ replaced => exact (Disk.replace_ok replaced).2.1
  | reloaded => exact hdraft

/-- Others who make no draft of the file. -/
def LeavesNoDraft (b : Backing) (d d' : Disk) : Prop :=
  d.file? (draft b.path) = none → d'.file? (draft b.path) = none

theorem Reaches.draft_eq_none {fits : List SavedQuery → Prop}
    (h : Reaches (LeavesNoDraft b) fits s t) (hb : s.backing = some b)
    (hdraft : s.disk.file? (draft b.path) = none) : t.disk.file? (draft b.path) = none := by
  induction h with
  | start => exact hdraft
  | operation op reached _ ih => exact (run_ends (reached.backing_eq hb) op).draft_eq_none ih
  | disturbance _ allowed ih => exact allowed ih

/-- **What fails changes nothing.** Let a store on disk be opened, let operations be run on it,
whether they succeed or not, and let others do to the disk whatever they like, except make a draft
of the file. Then an operation that fails, for whatever reason, leaves the records, their order and
the bytes of the file as they were, and all other files too. It leaves no draft if there was none
when the store was opened; in any case it does not make one. -/
theorem run_error_spared {createIfMissing : Bool} {s₀ s₁ : State} {e : Error}
    (hopen : (openFile b createIfMissing).apply s₀ = (.ok (), s₁))
    (hreach : Reaches (LeavesNoDraft b) (fun _ => True) s₁ s) (hfail : (op.run s).1 = .error e) :
    Spared b s (op.run s).2 ∧
      (s₀.disk.file? (draft b.path) = none → (op.run s).2.disk.file? (draft b.path) = none) := by
  obtain ⟨disk, hdisk, _, _, _, supply, _, _, _, rfl⟩ := openFile_eq_ok hopen
  have hends := run_ends (hreach.backing_eq rfl) op
  refine ⟨hends.spared hfail, fun hdraft => ?_⟩
  have hopened : disk.file? (draft b.path) = none := by
    rcases hdisk with ⟨-, rfl⟩ | ⟨-, _, -, replaced⟩
    · exact hdraft
    · exact (Disk.replace_ok replaced).2.1
  exact hends.draft_eq_none (hreach.draft_eq_none rfl hopened)

/-- A disk that runs full when a query is to be deleted: the draft cannot take the place of the
file, and the query stays. -/
theorem run_error_spared_fullDisk :
    let b : Backing := ⟨⟨"/", ["data", "queries.json"]⟩, .json⟩
    let s₀ : State := ⟨[], none, .regular 0 1000, .empty ⟨"/", ["data"]⟩⟩
    ∃ s₁ s, (openFile b true).apply s₀ = (.ok (), s₁) ∧
      Reaches (LeavesNoDraft b) (fun _ => True) s₁ s ∧ ids s.records = ["open"] ∧
      ((Operation.delete (.str "open")).run s).1
        = .error (.storeUnwritable "/data/queries.json" "No space left on device") ∧
      Spared b s ((Operation.delete (.str "open")).run s).2 ∧
      ((Operation.delete (.str "open")).run s).2.disk.file? (draft b.path) = none := by
  intro b s₀
  obtain ⟨s₁, hopen⟩ : ∃ s₁, (openFile b true).apply s₀ = (.ok (), s₁) := ⟨_, rfl⟩
  let imported : Operation := .importAll (.array [.record [("id", .str "open"),
    ("name", .str "Open cases"), ("createdAt", .str "2024-05-01T08:00:00.000Z")]])
  let full : WriteFailure := ⟨.rename, "No space left on device"⟩
  let s : State := { (imported.run s₁).2 with
    disk := { (imported.run s₁).2.disk with failure := some full } }
  have hreach : Reaches (LeavesNoDraft b) (fun _ => True) s₁ s :=
    .disturbance (.operation imported .start trivial) id
  have hids : ids s.records = ["open"] := by
    cases hopen
    rfl
  have hfail : ((Operation.delete (.str "open")).run s).1
      = .error (.storeUnwritable "/data/queries.json" "No space left on device") := by
    cases hopen
    rfl
  have hspared := run_error_spared hopen hreach hfail
  exact ⟨s₁, s, hopen, hreach, hids, hfail, hspared.1, hspared.2 rfl⟩

end DocView.Store
