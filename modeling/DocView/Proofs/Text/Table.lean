import DocView.Text.Table
import Mathlib.Data.List.Pairwise

/-!
# Looking up in character tables

A table is looked up by halving, which finds the right row if the rows ascend and do not overlap.
Then what a look-up answers can be said without the search: some row of the table has the code
point. That the rows ascend is seen by going through them once.

The tables are long texts. What is checked about one is checked about its rows, and the rows are
read from the characters of the text.

## Main definitions

* `Table.ascending` - whether rows ascend from a number on and do not overlap
* `Run.Has` - whether a run maps a code point

## Main results

* `Table.candidate?_of_mem` - a look-up finds the row that has the code point
* `Span.covers_iff`, `Run.image?_eq_some_iff` - what look-ups answer
-/

namespace DocView.Text

namespace Table

section Search

variable {α : Type} {first last : α → Nat} {low n : Nat} {rows : List α} {table : Array α}
  {row : α}

/-! ### Ascending rows -/

/-- Whether rows, each of which stands for a stretch of numbers, ascend from a number on and do not
overlap. -/
def ascending (first last : α → Nat) : Nat → List α → Bool
  | _, [] => true
  | low, row :: rest =>
    low ≤ first row && first row ≤ last row && ascending first last (last row + 1) rest

theorem ascending_cons : ascending first last low (row :: rows) = true ↔
    low ≤ first row ∧ first row ≤ last row ∧ ascending first last (last row + 1) rows = true := by
  simp [ascending, and_assoc]

theorem first_le_last_of_ascending (h : ascending first last low rows = true) :
    ∀ row ∈ rows, low ≤ first row ∧ first row ≤ last row := by
  induction rows generalizing low with
  | nil => exact List.forall_mem_nil _
  | cons head rest ih =>
    obtain ⟨hlow, hle, hrest⟩ := ascending_cons.mp h
    refine List.forall_mem_cons.mpr ⟨⟨hlow, hle⟩, fun row hrow => ?_⟩
    obtain ⟨hlow', hle'⟩ := ih hrest row hrow
    exact ⟨by omega, hle'⟩

theorem pairwise_of_ascending (h : ascending first last low rows = true) :
    rows.Pairwise fun a b => last a < first b := by
  induction rows generalizing low with
  | nil => exact .nil
  | cons head rest ih =>
    obtain ⟨-, -, hrest⟩ := ascending_cons.mp h
    exact .cons (fun row hrow => (first_le_last_of_ascending hrest row hrow).1) (ih hrest)

/-! ### Halving -/

/-- Halving finds the number of keys that are at most a given number, if these come first. -/
theorem countAtMost_eq {key : Nat → Nat} {m fuel low high : Nat}
    (hbelow : ∀ i < m, key i ≤ n) (habove : ∀ i, m ≤ i → i < high → n < key i)
    (hlow : low ≤ m) (hhigh : m ≤ high) (hfuel : high - low ≤ fuel) :
    countAtMost key n fuel low high = m := by
  induction fuel generalizing low high with
  | zero => rw [countAtMost]; omega
  | succ fuel ih =>
    unfold countAtMost
    by_cases hlt : low < high
    · rw [if_pos hlt]
      by_cases hkey : key ((low + high) / 2) ≤ n
      · have hm : ¬ m ≤ (low + high) / 2 := fun hle => by
          have := habove _ hle (by omega)
          omega
        simp only [hkey, if_true]
        exact ih habove (by omega) hhigh (by omega)
      · have hm : ¬ (low + high) / 2 < m := fun hlt => hkey (hbelow _ hlt)
        simp only [hkey, if_false]
        exact ih (fun i hmi hi => habove i hmi (by omega)) hlow (by omega) (by omega)
    · rw [if_neg hlt]
      omega

/-- What halving counts ends with a key that is at most the number. -/
theorem key_le_of_countAtMost {key : Nat → Nat} {i fuel low high : Nat}
    (hlow : ∀ j, low = j + 1 → key j ≤ n) (h : countAtMost key n fuel low high = i + 1) :
    key i ≤ n := by
  induction fuel generalizing low high with
  | zero => exact hlow i h
  | succ fuel ih =>
    unfold countAtMost at h
    split at h
    · by_cases hkey : key ((low + high) / 2) ≤ n
      · simp only [hkey, if_true] at h
        refine ih (fun j hj => ?_) h
        rwa [← Nat.succ.inj hj]
      · simp only [hkey, if_false] at h
        exact ih hlow h
    · exact hlow i h

/-- A look-up answers with a row that starts at the number or before. -/
theorem mem_of_candidate? (h : candidate? table first n = some row) :
    row ∈ table.toList ∧ first row ≤ n := by
  unfold candidate? at h
  simp only at h
  split at h
  next => cases h
  next i hcount =>
    have hkey := key_le_of_countAtMost (fun j hj => by cases hj) hcount
    rw [h] at hkey
    exact ⟨Array.mem_toList_iff.mpr (Array.mem_of_getElem? h), hkey⟩

/-- **A look-up finds the row** whose stretch has the number. -/
theorem candidate?_of_mem (h : ascending first last low table.toList = true)
    (hrow : row ∈ table.toList) (hfirst : first row ≤ n) (hlast : n ≤ last row) :
    candidate? table first n = some row := by
  obtain ⟨i, hi⟩ := List.mem_iff_getElem?.mp hrow
  obtain ⟨hlt, hget⟩ := List.getElem?_eq_some_iff.mp hi
  have hsorted := List.pairwise_iff_getElem.mp (pairwise_of_ascending h)
  have hkey {j : Nat} (hj : j < table.toList.length) :
      (table[j]?.map first).getD 0 = first table.toList[j] := by
    rw [← Array.getElem?_toList, List.getElem?_eq_getElem hj]
    rfl
  have hcount : countAtMost (fun j => (table[j]?.map first).getD 0) n (table.size + 1) 0 table.size
      = i + 1 := by
    refine countAtMost_eq (fun j hj => ?_) (fun j hj hsize => ?_) (by omega) hlt (by omega)
    · rw [hkey (by omega)]
      rcases Nat.lt_or_eq_of_le (Nat.lt_succ_iff.mp hj) with hji | rfl
      · have hbefore := hsorted j i (by omega) hlt hji
        have hle := (first_le_last_of_ascending h _ (List.getElem_mem (by omega : j < _))).2
        rw [hget] at hbefore
        omega
      · rwa [hget]
    · have hafter := hsorted i j hlt hsize hj
      rw [hget] at hafter
      rw [hkey hsize]
      omega
  unfold candidate?
  simp only [hcount]
  rw [← Array.getElem?_toList]
  exact hi

end Search

/-! ### Reading tables -/

/-- The spans that are read from characters. -/
def spanRows (cs : List Char) : List Span :=
  (rowsFrom cs none).filterMap fun
    | [a, b] => some ⟨a, b⟩
    | _ => none

/-- The runs that are read from characters. -/
def runRows (cs : List Char) : List Run :=
  (rowsFrom cs none).filterMap fun
    | [a, b, c, d] => some ⟨a, b, c, d⟩
    | _ => none

/-- The expansions that are read from characters. -/
def expansionRows (cs : List Char) : List Expansion :=
  (rowsFrom cs none).filterMap fun
    | a :: image => some ⟨a, image⟩
    | [] => none

theorem rows_ofList (cs : List Char) : rows (String.ofList cs) = rowsFrom cs none := by
  rw [rows, String.toList_ofList]

theorem toList_spans (cs : List Char) : (spans (String.ofList cs)).toList = spanRows cs := by
  rw [spans, rows_ofList]
  rfl

theorem toList_runs (cs : List Char) : (runs (String.ofList cs)).toList = runRows cs := by
  rw [runs, rows_ofList]
  rfl

theorem toList_expansions (cs : List Char) :
    (expansions (String.ofList cs)).toList = expansionRows cs := by
  rw [expansions, rows_ofList]
  rfl

end Table

/-! ### What look-ups answer -/

section

variable {low n m : Nat}

/-- Whether a code point lies in a span. -/
def Span.Has (span : Span) (n : Nat) : Prop := span.first ≤ n ∧ n ≤ span.last

instance (span : Span) (n : Nat) : Decidable (span.Has n) := inferInstanceAs (Decidable (_ ∧ _))

/-- Whether a code point lies in one of several spans. -/
def Span.Among (spans : List Span) (n : Nat) : Prop := ∃ span ∈ spans, span.Has n

instance (spans : List Span) (n : Nat) : Decidable (Span.Among spans n) :=
  inferInstanceAs (Decidable (∃ span ∈ spans, span.Has n))

theorem Span.covers_iff {table : Array Span}
    (h : Table.ascending Span.first Span.last low table.toList = true) :
    Span.covers table n = true ↔ Among table.toList n := by
  constructor
  · intro hcovers
    unfold covers at hcovers
    split at hcovers
    next span hspan =>
      obtain ⟨hmem, hfirst⟩ := Table.mem_of_candidate? hspan
      exact ⟨span, hmem, hfirst, of_decide_eq_true hcovers⟩
    next => cases hcovers
  · rintro ⟨span, hspan, hfirst, hlast⟩
    rw [covers, Table.candidate?_of_mem h hspan hfirst hlast]
    exact decide_eq_true hlast

/-- The last code point of the stretch of a run. -/
def Run.last (run : Run) : Nat := run.first + run.length

/-- Whether a run maps a code point. -/
def Run.Has (run : Run) (n : Nat) : Prop :=
  run.first ≤ n ∧ n - run.first ≤ run.length ∧ (n - run.first) % run.stride = 0

instance (run : Run) (n : Nat) : Decidable (run.Has n) :=
  inferInstanceAs (Decidable (_ ∧ _ ∧ _))

/-- The code point to which a run maps one. -/
def Run.imageOf (run : Run) (n : Nat) : Nat := run.target + (n - run.first)

/-- A look-up answers with the image under the run that has the code point. -/
theorem Run.image?_eq_some_iff {table : Array Run}
    (h : Table.ascending Run.first Run.last low table.toList = true) :
    Run.image? table n = some m ↔ ∃ run ∈ table.toList, run.Has n ∧ run.imageOf n = m := by
  constructor
  · intro himage
    obtain ⟨run, hrun, himage⟩ := Option.bind_eq_some_iff.mp himage
    obtain ⟨hmem, hfirst⟩ := Table.mem_of_candidate? hrun
    dsimp only at himage
    split at himage
    next hhas => exact ⟨run, hmem, ⟨hfirst, hhas⟩, Option.some.inj himage⟩
    next => cases himage
  · rintro ⟨run, hrun, ⟨hfirst, hhas⟩, rfl⟩
    have hlast : n ≤ run.last := by
      unfold last
      omega
    rw [image?, Table.candidate?_of_mem h hrun hfirst hlast]
    exact if_pos hhas

theorem Expansion.image?_of_mem {table : Array Expansion} {row : Expansion}
    (h : Table.ascending Expansion.source Expansion.source low table.toList = true)
    (hrow : row ∈ table.toList) : Expansion.image? table row.source = some row.image := by
  rw [image?, Table.candidate?_of_mem h hrow (Nat.le_refl _) (Nat.le_refl _)]
  exact if_pos rfl

end

/-! ### Stretches inside or outside of spans -/

/-- Whether a stretch of numbers lies in one of the ascending spans, or outside of all of them; if
neither, there is no answer. -/
def Span.holds? : List Span → Nat → Nat → Option Bool
  | [], _, _ => some false
  | span :: rest, first, last =>
    if span.last < first then Span.holds? rest first last
    else if span.first ≤ first && last ≤ span.last then some true
    else if last < span.first then some false
    else none

section

variable {spans : List Span} {low first last n : Nat}

theorem Span.among_of_holds? (h : Span.holds? spans first last = some true) (hfirst : first ≤ n)
    (hlast : n ≤ last) : Among spans n := by
  induction spans with
  | nil => cases h
  | cons span rest ih =>
    unfold holds? at h
    split at h
    next =>
      obtain ⟨other, hother, hhas⟩ := ih h
      exact ⟨other, List.mem_cons_of_mem span hother, hhas⟩
    next =>
      split at h
      next hin =>
        simp only [Bool.and_eq_true, decide_eq_true_eq] at hin
        exact ⟨span, List.mem_cons_self, Nat.le_trans hin.1 hfirst, Nat.le_trans hlast hin.2⟩
      next => split at h <;> cases h

theorem Span.not_among_of_holds?
    (hsorted : Table.ascending Span.first Span.last low spans = true)
    (h : Span.holds? spans first last = some false) (hfirst : first ≤ n) (hlast : n ≤ last) :
    ¬ Among spans n := by
  induction spans generalizing low with
  | nil =>
    rintro ⟨_, hnone, -⟩
    cases hnone
  | cons span rest ih =>
    obtain ⟨-, -, hrest⟩ := Table.ascending_cons.mp hsorted
    rintro ⟨other, hother, hhas⟩
    unfold holds? at h
    split at h
    next hbehind =>
      rcases List.mem_cons.mp hother with rfl | hother
      · have := hhas.2
        omega
      · exact ih hrest h ⟨other, hother, hhas⟩
    next =>
      split at h
      next => cases h
      next =>
        split at h
        next hbefore =>
          rcases List.mem_cons.mp hother with rfl | hother
          · have := hhas.1
            omega
          · have hlater := (Table.first_le_last_of_ascending hrest other hother).1
            have hle := (Table.ascending_cons.mp hsorted).2.1
            have := hhas.1
            omega
        next => cases h

end

end DocView.Text
