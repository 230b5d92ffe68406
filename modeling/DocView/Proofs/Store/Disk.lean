import DocView.Store.Disk
import Mathlib.Data.List.Basic

/-!
# How a file is replaced

Only the last step of a replacement touches the file itself: until then everything happens to the
draft, which is never the file. So when a step fails, what has been done so far has been done to
the draft alone, and the draft is removed. This is the whole reason why a file is replaced as a
whole or not at all, and it does not matter which step fails, nor why.

## Main results

* `Disk.draft_ne` - a draft is not the file it is the draft of
* `Disk.replace_error` - a replacement that fails leaves everything but the draft alone
* `Disk.replace_ok` - one that succeeds changes the file and nothing else
-/

namespace DocView.Disk

variable {d d' : Disk} {p q : Path} {bytes : List UInt8} {reason : String}

/-! ### One file among others -/

theorem lookup_file_cons (file : Path × List UInt8) (rest : List (Path × List UInt8)) :
    List.lookup q (file :: rest) = if q = file.1 then some file.2 else List.lookup q rest := by
  rw [List.lookup_cons]
  by_cases h : q = file.1
  · simp [h]
  · rw [beq_eq_false_iff_ne.mpr h, if_neg h]

theorem lookup_setFile (files : List (Path × List UInt8)) :
    List.lookup q (setFile files p bytes) = if q = p then some bytes else List.lookup q files := by
  induction files with
  | nil => exact lookup_file_cons (p, bytes) []
  | cons file rest ih =>
    unfold setFile
    split
    next hfile =>
      rw [lookup_file_cons, lookup_file_cons, hfile]
      split <;> rfl
    next hfile =>
      rw [lookup_file_cons, lookup_file_cons, ih]
      by_cases h : q = file.1
      · simp [h, hfile]
      · rw [if_neg h, if_neg h]

theorem lookup_filter (files : List (Path × List UInt8)) :
    List.lookup q (files.filter fun f => f.1 != p)
      = if q = p then none else List.lookup q files := by
  induction files with
  | nil => simp
  | cons file rest ih =>
    rw [List.filter_cons, lookup_file_cons]
    by_cases hfile : file.1 = p
    · rw [if_neg (by simp [hfile]), ih, hfile]
      split <;> rfl
    · rw [if_pos (by simp [hfile]), lookup_file_cons, ih]
      by_cases h : q = file.1
      · simp [h, hfile]
      · rw [if_neg h, if_neg h]

@[simp] theorem file?_put (d : Disk) (p q : Path) (bytes : List UInt8) :
    (d.put p bytes).file? q = if q = p then some bytes else d.file? q :=
  lookup_setFile d.files

@[simp] theorem file?_remove (d : Disk) (p q : Path) :
    (d.remove p).file? q = if q = p then none else d.file? q :=
  lookup_filter d.files

theorem read_eq_ok_iff :
    d.read p = .ok bytes ↔ d.unreadable = none ∧ d.file? p = some bytes := by
  unfold read
  split <;> simp_all

/-- A draft has a longer name than its file. -/
theorem draft_ne (p : Path) : draft p ≠ p := by
  intro h
  have hnames : p.names.dropLast ++ [p.names.getLast?.getD "" ++ ".tmp"] = p.names :=
    congrArg Path.names h
  rcases List.eq_nil_or_concat' p.names with hnil | ⟨front, name, hlast⟩
  · simp [hnil] at hnames
  · simp [hlast] at hnames

/-! ### Steps -/

/-- Before the last step only the draft is touched. -/
theorem file?_after {step : WriteStep} (hstep : step ≠ .rename) (hq : q ≠ draft p) :
    (d.after p bytes step).file? q = d.file? q := by
  cases step with
  | create => exact (file?_put _ _ _ _).trans (if_neg hq)
  | write => exact (file?_put _ _ _ _).trans (if_neg hq)
  | sync => rfl
  | rename => exact absurd rfl hstep

/-- Steps that fail have touched only the draft, if the last one of them is the only one that could
touch more. -/
theorem file?_of_attempt_error {steps : List WriteStep} {last : WriteStep}
    (hsteps : ∀ step ∈ steps, step ≠ .rename)
    (h : attempt p bytes (steps ++ [last]) d = (.error reason, d')) (hq : q ≠ draft p) :
    d'.file? q = d.file? q := by
  induction steps generalizing d with
  | nil =>
    rw [List.nil_append, attempt] at h
    split at h
    · obtain rfl : d = d' := congrArg Prod.snd h
      rfl
    · cases h
  | cons step rest ih =>
    rw [List.cons_append, attempt] at h
    split at h
    · obtain rfl : d = d' := congrArg Prod.snd h
      rfl
    · rw [ih (fun s hs => hsteps s (List.mem_cons_of_mem _ hs)) h]
      exact file?_after (hsteps step List.mem_cons_self) hq

/-- Steps that succeed have all been done. -/
theorem eq_foldl_of_attempt_ok {steps : List WriteStep}
    (h : attempt p bytes steps d = (.ok (), d')) : d' = steps.foldl (fun d => d.after p bytes) d := by
  induction steps generalizing d with
  | nil => exact (congrArg Prod.snd h).symm
  | cons step rest ih =>
    rw [attempt] at h
    split at h
    · cases h
    · exact ih h

/-! ### Replacing -/

/-- **A replacement that fails** leaves everything but the draft alone, and there is no draft. -/
theorem replace_error (h : d.replace p bytes = (.error reason, d')) :
    (∀ q, q ≠ draft p → d'.file? q = d.file? q) ∧ d'.file? (draft p) = none := by
  unfold replace at h
  split at h
  · cases h
  · next d₁ hattempt =>
    -- Failing at the last step is failing before it: the step itself is not done.
    have hsteps : ∀ step ∈ [WriteStep.create, .write, .sync], step ≠ .rename := by decide
    obtain rfl : d₁.remove (draft p) = d' := congrArg Prod.snd h
    refine ⟨fun q hq => ?_, by simp⟩
    rw [file?_remove, if_neg hq]
    exact file?_of_attempt_error hsteps hattempt hq

/-- **A replacement that succeeds** gives the file its new contents and changes nothing else, and
there is no draft. -/
theorem replace_ok (h : d.replace p bytes = (.ok (), d')) :
    d'.file? p = some bytes ∧ d'.file? (draft p) = none ∧
      ∀ q, q ≠ p → q ≠ draft p → d'.file? q = d.file? q := by
  unfold replace at h
  split at h
  · next d₁ hattempt =>
    obtain rfl : d₁ = d' := congrArg Prod.snd h
    have hwritten : ((d.put (draft p) []).put (draft p) bytes).file? (draft p) = some bytes := by
      simp
    have hd : d₁ = (((d.put (draft p) []).put (draft p) bytes).remove (draft p)).put p bytes := by
      rw [eq_foldl_of_attempt_ok hattempt]
      simp only [List.foldl_cons, List.foldl_nil, after, move, hwritten]
    rw [hd]
    refine ⟨by simp, by simp [draft_ne], fun q hp hdraft => ?_⟩
    simp [hp, hdraft]
  · cases h

end DocView.Disk
