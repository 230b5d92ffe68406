import DocView.Inference
import DocView.Proofs.Result
import DocView.Proofs.Text.Numeral
import Mathlib.Data.List.Basic

/-!
# What type inference depends on

The type of a field is guessed from a window: the first values of it that are not null. Four tests
are made, one after the other, and the first one that all values of the window pass is the answer.
The order in which they are made says nothing, because no value passes two of them. This is plain
for all pairs but one. A text may be a number and a text may be a date, and it must not be both: a
date begins with digits and a hyphen, and no number does, in whatever script its digits are.

So there is nothing in the answer but the values of the window, and not even their order.

## Main definitions

* `Inference.present` - the samples that are not null
* `Inference.passes`, `Inference.tested` - the tests, and the types that they are for

## Main results

* `Inference.eq_of_passes` - no value passes two tests
* `Inference.ofWindow_eq_find?`, `Inference.ofWindow_perm`
* `Inference.infer_window` - what the answer depends on
* `Inference.ofField_eq_infer` - the type of a field is that of its values
-/

namespace DocView.Inference

variable {values values' samples samples' : List Value} {v : Value} {t t' : FieldType}

/-! ### Tests -/

/-- Whether a value passes the test for a type. For types that are not tested for, none does. -/
def passes : FieldType → Value → Bool
  | .number, v => (coerceNumber v).isSome
  | .boolean, v => v.isBool
  | .date, v => isDateLike v
  | .array, v => v.isList
  | _, _ => false

/-- The types that are tested for. -/
def tested : List FieldType := [.number, .boolean, .date, .array]

/-- A date begins with digits and a hyphen. -/
theorem exists_of_startsLikeDate {cs : List Char} (h : startsLikeDate cs = true) :
    ∃ ds rest, cs = ds ++ '-' :: rest ∧ (∀ d ∈ ds, Text.isDigit d = true) ∧ ds ≠ [] := by
  unfold startsLikeDate at h
  split at h
  next a b c d e f g i rest =>
    refine ⟨[a, b, c, d], _, rfl, fun x hx => ?_, List.cons_ne_nil _ _⟩
    exact List.all_eq_true.mp h x (List.mem_append_left [e, f, g, i] hx)
  next => contradiction

/-- **A text that begins like a date is no number.** -/
theorem ofText?_of_startsLikeDate {s : String}
    (h : startsLikeDate (Text.stripList s.toList) = true) : Number.ofText? s = none := by
  obtain ⟨ds, rest, hs, hds, hne⟩ := exists_of_startsLikeDate h
  have hstripped : Text.stripBy Text.isPadding (Text.strip s).toList = ds ++ '-' :: rest := by
    rw [Text.strip, String.toList_ofList, Text.stripBy_isPadding_stripList, hs]
  rw [Number.ofText?, Text.integer?_of_hyphen hstripped hds hne,
    Text.decimal?_of_hyphen hstripped hds hne]
  exact ite_self none

/-- A value passes the test for one type only. The kind of the value says for which, except that a
text may be a number or a date. -/
theorem exists_forall_passes (v : Value) : ∃ t₀, ∀ t, passes t v = true → t = t₀ := by
  cases v with
  | bool =>
    refine ⟨.boolean, fun t h => ?_⟩
    cases t with
    | boolean => rfl
    | _ => cases h
  | int | float =>
    refine ⟨.number, fun t h => ?_⟩
    cases t with
    | number => rfl
    | _ => cases h
  | date | moment =>
    refine ⟨.date, fun t h => ?_⟩
    cases t with
    | date => rfl
    | _ => cases h
  | list =>
    refine ⟨.array, fun t h => ?_⟩
    cases t with
    | array => rfl
    | _ => cases h
  | null | unset | bytes | object => exact ⟨.string, fun t h => by cases t <;> cases h⟩
  | str s =>
    by_cases hdate : startsLikeDate (Text.stripList s.toList) = true
    · refine ⟨.date, fun t h => ?_⟩
      have hnumber : coerceNumber (.str s) = none := by
        rw [coerceNumber, ofText?_of_startsLikeDate hdate]
      cases t with
      | number => rw [passes, hnumber] at h; cases h
      | date => rfl
      | _ => cases h
    · refine ⟨.number, fun t h => ?_⟩
      have hnone : coerceDate (.str s) = none := if_neg hdate
      cases t with
      | number => rfl
      | date => rw [passes, isDateLike, hnone] at h; cases h
      | _ => cases h

/-- **No value passes two tests.** -/
theorem eq_of_passes (h : passes t v = true) (h' : passes t' v = true) : t = t' := by
  obtain ⟨t₀, ht₀⟩ := exists_forall_passes v
  exact (ht₀ t h).trans (ht₀ t' h').symm

/-- If there is a value at all, no two tests are passed by all values. -/
theorem eq_of_all_passes (hne : values ≠ []) (h : values.all (passes t) = true)
    (h' : values.all (passes t') = true) : t = t' := by
  obtain ⟨v, rest, rfl⟩ := List.exists_cons_of_ne_nil hne
  exact eq_of_passes (List.all_eq_true.mp h v List.mem_cons_self)
    (List.all_eq_true.mp h' v List.mem_cons_self)

/-! ### Windows -/

/-- The answer is the first of the types whose test all values pass. -/
theorem ofWindow_eq_find? (hne : values ≠ []) :
    ofWindow values = (tested.find? fun t => values.all (passes t)).getD .string := by
  have hempty : values.isEmpty = false := List.isEmpty_eq_false_iff.mpr hne
  have hnumber : (values.all fun v => (coerceNumber v).isSome) = values.all (passes .number) := rfl
  have hboolean : values.all Value.isBool = values.all (passes .boolean) := rfl
  have hdate : values.all isDateLike = values.all (passes .date) := rfl
  have harray : values.all Value.isList = values.all (passes .array) := rfl
  rw [ofWindow, hempty, hnumber, hboolean, hdate, harray]
  simp only [tested, List.find?_cons, List.find?_nil]
  -- What the tests are no longer matters, only which of them are passed.
  cases values.all (passes .number) <;> cases values.all (passes .boolean) <;>
    cases values.all (passes .date) <;> cases values.all (passes .array) <;> rfl

/-- A search that can find only one item finds it in whatever order it is made. -/
theorem find?_eq_of_perm {α : Type} {p : α → Bool} {l l' : List α} (hperm : l.Perm l')
    (hunique : ∀ a b, p a = true → p b = true → a = b) : l.find? p = l'.find? p := by
  cases hfind : l.find? p with
  | none =>
    rw [List.find?_eq_none] at hfind
    exact (List.find?_eq_none.mpr fun a ha => hfind a (hperm.mem_iff.mpr ha)).symm
  | some a =>
    have ha := List.find?_some hfind
    cases hfind' : l'.find? p with
    | none =>
      have hmem := hperm.mem_iff.mp (List.mem_of_find?_eq_some hfind)
      have hnone := List.find?_eq_none.mp hfind' a hmem
      contradiction
    | some b => rw [hunique a b ha (List.find?_some hfind')]

/-- **The order of the tests says nothing.** -/
theorem ofWindow_eq_of_perm (hne : values ≠ []) {order : List FieldType} (h : order.Perm tested) :
    ofWindow values = (order.find? fun t => values.all (passes t)).getD .string := by
  rw [ofWindow_eq_find? hne, find?_eq_of_perm h fun _ _ => eq_of_all_passes hne]

/-- **The order of the values says nothing.** -/
theorem ofWindow_perm (h : values.Perm values') : ofWindow values = ofWindow values' := by
  simp only [ofWindow, h.isEmpty_eq, h.all_eq]

/-! ### Samples -/

/-- The samples that are not null. -/
def present (samples : List Value) : List Value := samples.filter fun v => !v.isNull

theorem present_append (samples rest : List Value) :
    present (samples ++ rest) = present samples ++ present rest :=
  List.filter_append samples rest

theorem present_cons (v : Value) (rest : List Value) :
    present (v :: rest) = if v.isNull then present rest else v :: present rest := by
  cases hnull : v.isNull <;> simp [present, hnull]

theorem infer_natCast {n : Nat} (hn : n ≤ Window.maxSize) (samples : List Value) :
    infer samples (.int n) = .ok (ofWindow ((present samples).take n)) := by
  rw [infer, Window.ofValue_natCast hn]
  rfl

/-- Samples with the same values in their windows, in whatever order, have the same type. If the size
is too large, there is none for either. -/
theorem infer_congr {n : Nat} (h : ((present samples).take n).Perm ((present samples').take n)) :
    infer samples (.int n) = infer samples' (.int n) := by
  by_cases hn : n ≤ Window.maxSize
  · rw [infer_natCast hn, infer_natCast hn, ofWindow_perm h]
  · obtain ⟨e, he⟩ := Window.exists_ofValue_natCast hn
    rw [infer, infer, he]
    rfl

/-- **What type inference depends on.** Nulls make no difference, nor does anything behind the first
so many values that are not null, nor the order of these. If there are any, all of them pass at most
one of the tests, and the answer is the type of that test, in whatever order the tests are made, or
text if they pass none. -/
theorem infer_window (n : Nat) :
    (∀ before after, infer (before ++ .null :: after) (.int n) = infer (before ++ after) (.int n)) ∧
    (∀ first rest rest', n ≤ (present first).length →
      infer (first ++ rest) (.int n) = infer (first ++ rest') (.int n)) ∧
    (∀ samples samples', ((present samples).take n).Perm ((present samples').take n) →
      infer samples (.int n) = infer samples' (.int n)) ∧
    ∀ samples, (present samples).take n ≠ [] →
      let all type := ((present samples).take n).all (passes type)
      (∀ t t', all t = true → all t' = true → t = t') ∧
      (n ≤ Window.maxSize → ∀ order : List FieldType, order.Perm tested →
        infer samples (.int n) = .ok ((order.find? all).getD .string)) := by
  refine ⟨fun before after => ?_, fun first rest rest' hlength => ?_, fun _ _ => infer_congr,
    fun samples hne => ⟨fun t t' => eq_of_all_passes hne, fun hn order horder => ?_⟩⟩
  · refine infer_congr (List.Perm.of_eq ?_)
    rw [present_append, present_cons, present_append]
    rfl
  · refine infer_congr (List.Perm.of_eq ?_)
    rw [present_append, present_append, List.take_append_of_le_length hlength,
      List.take_append_of_le_length hlength]
  · rw [infer_natCast hn, ofWindow_eq_of_perm hne horder]

/-- A text and a date in either order, a null between them and a number behind them. -/
theorem infer_window_dates :
    let day := Value.date ⟨2024, 2, 29⟩
    let samples := [.str " 2024-03-01 ", .null, day]
    (2 ≤ (present samples).length ∧
      infer (samples ++ [.int 1]) (.int (2 : Nat)) = infer (samples ++ []) (.int (2 : Nat))) ∧
    (((present samples).take 2).Perm ((present samples.reverse).take 2) ∧
      infer samples (.int (2 : Nat)) = infer samples.reverse (.int (2 : Nat))) ∧
    (present samples).take 2 ≠ [] ∧ ((2 : Nat) : Int) ≤ Window.maxSize ∧
    [FieldType.array, .date, .boolean, .number].Perm tested ∧
    infer samples (.int (2 : Nat)) = .ok .date := by
  intro day samples
  obtain ⟨-, hbehind, hperm, hall⟩ := infer_window 2
  have hlength : 2 ≤ (present samples).length := by decide
  have hreverse : ((present samples).take 2).Perm ((present samples.reverse).take 2) :=
    List.Perm.swap _ _ _
  have hne : (present samples).take 2 ≠ [] := List.cons_ne_nil _ _
  have hsize : ((2 : Nat) : Int) ≤ Window.maxSize := by decide
  have horder : [FieldType.array, .date, .boolean, .number].Perm tested := by decide
  have htype := (hall samples hne).2 hsize _ horder
  exact ⟨⟨hlength, hbehind samples _ _ hlength⟩, ⟨hreverse, hperm _ _ hreverse⟩, hne, hsize, horder,
    htype⟩

/-- A window beyond the largest size has no type, although the one value in it is a number. -/
theorem not_infer_window_size :
    let samples := [Value.int 1]
    let size := Nat.pow 2 63
    (present samples).take size = samples ∧ samples.all (passes .number) = true ∧
      ∀ type, infer samples (.int size) ≠ .ok type := by
  intro samples size
  refine ⟨List.take_of_length_le (by decide), rfl, fun type htype => ?_⟩
  cases htype

/-! ### Fields -/

/-- The next document is read unless the window is empty, and the window gets smaller if its value
is not null. -/
theorem fieldWindow_cons {window : Window} (hwindow : window ≠ some 0) (d : Value)
    (rest : List Value) (name : String) :
    fieldWindow (.str name) window (d :: rest)
      = if (Document.namedField d name).isNull then fieldWindow (.str name) window rest
        else (fieldWindow (.str name) (window.map (· - 1)) rest).map
          (Document.namedField d name :: ·) := by
  match window with
  | none => rfl
  | some 0 => contradiction
  | some (n + 1) => rfl

/-- The values of a field that a window shows are those that are not null, from the first on. -/
theorem fieldWindow_eq (docs : List Value) (name : String) (window : Window) :
    fieldWindow (.str name) window docs
      = .ok (window.take (present (docs.map fun d => Document.namedField d name))) := by
  induction docs generalizing window with
  | nil => cases window with
    | none => rfl
    | some n => cases n <;> rfl
  | cons d rest ih =>
    by_cases hwindow : window = some 0
    · subst hwindow
      rfl
    · rw [fieldWindow_cons hwindow, ih, ih, List.map_cons, present_cons]
      split
      · rfl
      · match window with
        | none => rfl
        | some 0 => contradiction
        | some (n + 1) => rfl

/-- **The type of a field is that of its values**, document by document. -/
theorem ofField_eq_infer (docs : List Value) (name : String) (size : Value) :
    ofField docs (.str name) size = infer (docs.map fun d => Document.namedField d name) size := by
  cases hsize : Window.ofValue size with
  | error e => rw [ofField, infer, hsize]; rfl
  | ok window =>
    rw [ofField, infer, hsize]
    show (do .ok (ofWindow (← fieldWindow (.str name) window docs)) : Result FieldType) = _
    rw [fieldWindow_eq]
    rfl

end DocView.Inference
