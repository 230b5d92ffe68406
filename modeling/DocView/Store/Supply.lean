import DocView.Calendar.Stamp
import DocView.Text.Quoted

/-!
# Time stamps and fresh identifiers

A store takes time stamps from a clock and identifiers from a generator. Both are sequences here,
of which so many terms have been taken; what the terms are is left open, and no property of the
store depends on the clock.

The generator may repeat itself, and may hand out identifiers that are in use already. What it may
not do is run dry: whatever is in use, an identifier that is not comes up in the end. This is all
that is needed to go on until one does.

## Main definitions

* `Supply`, `Supply.now`, `Supply.freshId`
* `Supply.unusedId` - takes identifiers until one is not in use
* `Supply.regular` - a clock that goes on by equal steps, and identifiers counted upwards
-/

namespace DocView

/-- Sequences of time stamps and of identifiers, with the numbers of those that have been taken. -/
structure Supply where
  clock : Nat → String
  ids : Nat → String
  readings : Nat
  issued : Nat
  /-- A time stamp has a text. -/
  clock_ne_empty : ∀ n, clock n ≠ ""
  /-- An identifier has a text. -/
  ids_ne_empty : ∀ n, ids n ≠ ""
  /-- Whatever is in use, the generator goes on to something that is not. -/
  endless : ∀ (used : List String) (n : Nat), ∃ m, n ≤ m ∧ ids m ∉ used

namespace Supply

/-- Reads the clock. -/
def now (s : Supply) : String × Supply :=
  (s.clock s.readings, { s with readings := s.readings + 1 })

/-- Takes an identifier. -/
def freshId (s : Supply) : String × Supply := (s.ids s.issued, { s with issued := s.issued + 1 })

/-! ### Identifiers that are not in use -/

/-- Going on to the next term while the present one is in use comes to an end. -/
theorem wellFounded_search (s : Supply) (used : List String) :
    WellFounded fun a b => a = b + 1 ∧ s.ids b ∈ used := by
  refine ⟨fun n => ?_⟩
  obtain ⟨m, hnm, hm⟩ := s.endless used n
  obtain ⟨k, rfl⟩ := Nat.exists_eq_add_of_le hnm
  induction k generalizing n with
  | zero => exact ⟨n, fun _ h => absurd h.2 hm⟩
  | succ k ih =>
    refine ⟨n, fun a h => ?_⟩
    rw [h.1]
    have hk : n + (k + 1) = n + 1 + k := by omega
    exact ih (n + 1) (Nat.le_add_right _ _) (hk ▸ hm)

/-- The first term from a number on that is not in use. -/
def firstUnused (s : Supply) (used : List String) (n : Nat) : Nat :=
  if s.ids n ∈ used then firstUnused s used (n + 1) else n
termination_by (s.wellFounded_search used).wrap n
decreasing_by exact ⟨rfl, ‹_›⟩

/-- Takes identifiers until one is not among those in use. -/
def unusedId (used : List String) (s : Supply) : String × Supply :=
  let n := s.firstUnused used s.issued
  (s.ids n, { s with issued := n + 1 })

theorem ids_firstUnused_notMem (s : Supply) (used : List String) (n : Nat) :
    s.ids (s.firstUnused used n) ∉ used := by
  fun_induction firstUnused s used n with
  | case1 _ _ ih => exact ih
  | case2 _ h => exact h

/-- What is taken was not in use. -/
theorem unusedId_notMem (s : Supply) (used : List String) : (s.unusedId used).1 ∉ used :=
  s.ids_firstUnused_notMem used s.issued

/-! ### A regular supply -/

/-- The number as thirty-two hexadecimal digits, or more if it has more. -/
def hexId (n : Nat) : String := String.ofList (Text.paddedHex 32 n)

theorem length_toDigits_le_length_hexId (n : Nat) :
    (Nat.toDigits 16 n).length ≤ (hexId n).length := by
  simp [hexId, Text.paddedHex]

theorem hexId_ne_empty (n : Nat) : hexId n ≠ "" := by
  have hpos : 0 < (Nat.toDigits 16 n).length := Nat.length_toDigits_pos
  have hle := length_toDigits_le_length_hexId n
  intro h
  rw [h, String.length_empty] at hle
  omega

/-- Texts have a longest one among them, and large numbers have longer texts. -/
theorem hexId_endless (used : List String) (n : Nat) : ∃ m, n ≤ m ∧ hexId (m + 1) ∉ used := by
  obtain ⟨longest, hlongest⟩ : ∃ longest, ∀ s ∈ used, s.length ≤ longest :=
    ⟨(used.map String.length).max?.getD 0, fun _ hs =>
      List.le_max?_getD_of_mem (List.mem_map_of_mem hs)⟩
  refine ⟨n + 16 ^ (longest + 1), Nat.le_add_right _ _, fun hmem => ?_⟩
  have hdigits : (Nat.toDigits 16 (n + 16 ^ (longest + 1) + 1)).length ≤ longest :=
    Nat.le_trans (length_toDigits_le_length_hexId _) (hlongest _ hmem)
  have hlt : n + 16 ^ (longest + 1) + 1 < 16 ^ (longest + 1) :=
    (Nat.length_toDigits_le_iff (by omega) (by omega)).mp (Nat.le_succ_of_le hdigits)
  omega

/-- A clock that starts at a moment and goes on by equal steps, both in microseconds, and
identifiers of thirty-two hexadecimal digits counted upwards from one. -/
def regular (start step : Nat) : Supply where
  clock n := (Moment.ofMicros (start + n * step)).stamp
  ids n := hexId (n + 1)
  readings := 0
  issued := 0
  clock_ne_empty n := by simp [Moment.stamp]
  ids_ne_empty n := hexId_ne_empty (n + 1)
  endless used n := hexId_endless used n

end Supply

end DocView
