import DocView.Page
import DocView.Proofs.Result

/-!
# Pages make up their list

The pages of a list, one after the other, are the list. This is a fact about the bounds, and the
bounds are cut off at the end of the list twice, so it is proved by way of a page without bounds:
what is left after the pages before it, and of that so many items as a page has. The first so many
pages are then the first so many items of the list, page by page.

## Main results

* `Page.flatMap_slice` - the first pages together
* `Page.flatMap_slice_pageCount`, `Page.slice_eq_nil_iff` - all pages together, none behind them
* `Page.numbers_eq_ok_iff` - which page numbers and sizes are accepted
-/

namespace DocView

/-! ### Numbers that are accepted -/

namespace Argument

theorem page_eq_ok_iff {v : Value} {n : Int} :
    page v = .ok n ↔ v = .int n ∧ 1 ≤ n := by
  cases v
  case int m =>
    by_cases hm : m < 1
    · simp only [page, hm, if_true, reduceCtorEq, Value.int.injEq, false_iff]
      omega
    · simp only [page, hm, if_false, Except.ok.injEq, Value.int.injEq]
      omega
  all_goals simp [page]

theorem pageSize_eq_ok_iff {v : Value} {limit n : Int} :
    pageSize v limit = .ok n ↔ v = .int n ∧ 1 ≤ n ∧ n ≤ limit := by
  cases v
  case int m =>
    by_cases hm : m < 1
    · simp only [pageSize, hm, if_true, reduceCtorEq, Value.int.injEq, false_iff]
      omega
    · by_cases hlimit : limit < m
      · simp only [pageSize, hm, hlimit, if_true, if_false, reduceCtorEq, Value.int.injEq, false_iff]
        omega
      · simp only [pageSize, hm, hlimit, if_false, Except.ok.injEq, Value.int.injEq]
        omega
  all_goals simp [pageSize]

end Argument

namespace Page

variable {α : Type} {items : List α} {page size : Nat}

/-! ### Cutting -/

/-- A page is what the pages before it leave, as far as its size goes. -/
theorem slice_eq (items : List α) (page size : Nat) :
    slice items (page + 1) size = (items.drop (page * size)).take size := by
  have hmul : (page + 1) * size = page * size + size := by rw [Nat.succ_mul]
  show (items.take (min ((page + 1) * size) items.length)).drop
    (min ((page + 1 - 1) * size) items.length) = _
  rw [Nat.add_sub_cancel, ← List.take_take, List.take_length, hmul, List.drop_take]
  by_cases hlt : page * size ≤ items.length
  · rw [Nat.min_eq_left hlt, Nat.add_sub_cancel_left]
  · have hlen : items.length ≤ page * size := by omega
    rw [Nat.min_eq_right hlen, List.drop_length, List.drop_of_length_le hlen, List.take_nil,
      List.take_nil]

theorem take_succ_mul (items : List α) (page size : Nat) :
    items.take ((page + 1) * size) = items.take (page * size) ++ slice items (page + 1) size := by
  rw [slice_eq, Nat.succ_mul, List.take_add]

/-- **The first so many pages are the first so many items.** -/
theorem flatMap_slice (items : List α) (size count : Nat) :
    (List.range count).flatMap (fun i => slice items (i + 1) size) = items.take (count * size) := by
  induction count with
  | zero => simp
  | succ count ih =>
    rw [List.range_succ, List.flatMap_append, ih, take_succ_mul]
    simp

theorem slice_sublist (items : List α) (page size : Nat) :
    (slice items page size).Sublist items :=
  (List.drop_sublist _ _).trans (List.take_sublist _ _)

/-! ### Counting -/

theorem le_pageCount_mul (total : Nat) (hsize : 0 < size) : total ≤ pageCount total size * size := by
  have hdiv := Nat.div_add_mod (total + size - 1) size
  have hmod := Nat.mod_lt (total + size - 1) hsize
  rw [pageCount, Nat.mul_comm]
  omega

theorem flatMap_slice_pageCount (items : List α) (hsize : 0 < size) :
    (List.range (pageCount items.length size)).flatMap (fun i => slice items (i + 1) size)
      = items := by
  rw [flatMap_slice, List.take_of_length_le (le_pageCount_mul items.length hsize)]

/-- A page is empty exactly if the pages before it hold everything. -/
theorem slice_eq_nil_iff (hsize : 0 < size) :
    slice items (page + 1) size = [] ↔ items.length ≤ page * size := by
  rw [slice_eq, List.take_eq_nil_iff, List.drop_eq_nil_iff]
  omega

theorem slice_eq_nil (hsize : 0 < size) (hpage : pageCount items.length size < page) :
    slice items page size = [] := by
  obtain ⟨before, rfl⟩ : ∃ before, page = before + 1 := ⟨page - 1, by omega⟩
  exact (slice_eq_nil_iff hsize).mpr
    (Nat.le_trans (le_pageCount_mul items.length hsize) (Nat.mul_le_mul_right size (by omega)))

/-! ### Checked numbers -/

/-- Page numbers and sizes are accepted if they are integers from one on, sizes up to the
largest. -/
theorem numbers_eq_ok_iff {page size : Value} {p n : Nat} :
    numbers page size = .ok (p, n)
      ↔ page = .int p ∧ 1 ≤ p ∧ size = .int n ∧ 1 ≤ n ∧ (n : Int) ≤ Argument.maxPageSize := by
  unfold numbers
  constructor
  · intro h
    obtain ⟨p', hp, hrest⟩ := bind_eq_ok.mp h
    obtain ⟨n', hn, hpair⟩ := bind_eq_ok.mp hrest
    obtain ⟨rfl, hp'⟩ := Argument.page_eq_ok_iff.mp hp
    obtain ⟨rfl, hn', hmax⟩ := Argument.pageSize_eq_ok_iff.mp hn
    obtain ⟨hpage, hsize⟩ := Prod.mk.inj (Except.ok.inj hpair)
    obtain rfl : p' = p := by omega
    obtain rfl : n' = n := by omega
    exact ⟨rfl, by omega, rfl, by omega, hmax⟩
  · rintro ⟨rfl, hp, rfl, hn, hmax⟩
    rw [Argument.page_eq_ok_iff.mpr ⟨rfl, by omega⟩]
    show (do
      let size ← Argument.pageSize (.int n) Argument.maxPageSize
      .ok (p, size.toNat) : Result (Nat × Nat)) = _
    rw [Argument.pageSize_eq_ok_iff.mpr ⟨rfl, by omega, hmax⟩]
    rfl

end Page

end DocView
