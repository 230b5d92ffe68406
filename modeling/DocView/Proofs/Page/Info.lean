import DocView.Proofs.Page
import Mathlib.Order.Bounds.Basic

/-!
# What is said of a page is true of it

A page and its description are computed apart from one another: the items by cutting the list, the
bounds from its length alone, the number of pages by a division that rounds up, and whether there is
a next page by comparing two page numbers. All of it comes down to one comparison. A page that has
so many pages before it has items exactly if the items of those pages are not all items
(`slice_eq_nil_iff`), and there are more pages than that exactly in the same case
(`lt_pageCount_iff`).

## Main definitions

* `Page.Info.Describes`

## Main results

* `Page.isLeast_pageCount` - the number of pages
* `Page.infoOf_describes`
-/

namespace DocView.Page

variable {α : Type} {items : List α} {total page size : Nat}

/-! ### The number of pages -/

/-- There are more pages than some exactly if these do not hold everything. -/
theorem lt_pageCount_iff (hsize : 0 < size) :
    page < pageCount total size ↔ page * size < total := by
  rw [pageCount, ← Nat.succ_le_iff, Nat.le_div_iff_mul_le hsize, Nat.succ_mul]
  omega

/-- **The number of pages is the least that holds all items.** -/
theorem isLeast_pageCount (total : Nat) (hsize : 0 < size) :
    IsLeast {count | total ≤ count * size} (pageCount total size) := by
  refine ⟨le_pageCount_mul total hsize, fun count hcount => ?_⟩
  by_contra hlt
  exact Nat.not_lt.mpr hcount ((lt_pageCount_iff hsize).mp (Nat.not_le.mp hlt))

/-! ### Bounds -/

theorem bounds_ordered (total page size : Nat) :
    (bounds total page size).1 ≤ (bounds total page size).2 ∧
      (bounds total page size).2 ≤ total := by
  have hmul : (page - 1) * size ≤ page * size := Nat.mul_le_mul_right size (Nat.sub_le page 1)
  rw [bounds]
  omega

/-- Every page starts where the page before it ends. -/
theorem bounds_succ (total page size : Nat) :
    (bounds total (page + 1) size).1 = (bounds total page size).2 := by
  rw [bounds, bounds, Nat.add_sub_cancel]

theorem slice_eq_extract (items : List α) (page size : Nat) :
    slice items page size
      = items.extract (bounds items.length page size).1 (bounds items.length page size).2 := by
  rw [List.extract_eq_take_drop, ← List.drop_take]
  rfl

/-- What lies between two bounds is empty exactly if they do not leave room for anything. -/
theorem extract_eq_nil_iff {start stop : Nat} (hstop : stop ≤ items.length) :
    items.extract start stop = [] ↔ stop ≤ start := by
  rw [← List.length_eq_zero_iff, List.extract_eq_take_drop, List.length_take, List.length_drop]
  omega

/-! ### Descriptions -/

/-- The description is true of a page that shows some of the items, with another page after it. -/
structure Info.Describes (i : Info) (items shown following : List α) : Prop where
  /-- All items are counted. -/
  totalItems : i.totalItems = items.length
  /-- The page shows what lies between its bounds. -/
  cut : shown = items.extract i.startIndex i.endIndex
  /-- The bounds are in order. -/
  ordered : i.startIndex ≤ i.endIndex
  /-- The bounds lie in the list. -/
  within : i.endIndex ≤ items.length
  /-- The page is said to be empty exactly if it shows nothing. -/
  isEmpty : i.isEmpty ↔ shown = []
  /-- There is said to be a next page exactly if the next page shows something. -/
  hasNext : i.hasNext ↔ following ≠ []
  /-- No fewer pages of this size hold all items. -/
  totalPages : IsLeast {count | items.length ≤ count * i.pageSize} i.totalPages

theorem info_describes (items : List α) (page : Nat) (hsize : 0 < size) :
    (info items.length page size).Describes items (slice items page size)
      (slice items (page + 1) size) where
  totalItems := rfl
  cut := slice_eq_extract items page size
  ordered := (bounds_ordered items.length page size).1
  within := (bounds_ordered items.length page size).2
  isEmpty := by
    rw [slice_eq_extract, extract_eq_nil_iff (bounds_ordered items.length page size).2]
    exact decide_eq_true_iff
  hasNext := by
    rw [ne_eq, slice_eq_nil_iff hsize, Nat.not_le, ← lt_pageCount_iff hsize]
    exact decide_eq_true_iff
  totalPages := isLeast_pageCount items.length hsize

/-- **The description of a page agrees with the page.** Every page number from one on and every
size up to the largest is accepted, for the page and for its description, however far behind the
end of the list the page lies; the description is true of the page; and the page ends where the
next one starts. -/
theorem infoOf_describes (items : List α) (hpage : 1 ≤ page) (hsize : 1 ≤ size)
    (hmax : (size : Int) ≤ Argument.maxPageSize) :
    ∃ (here next : Info) (shown following : List α),
      infoOf (.int items.length) (.int page) (.int size) = .ok here ∧
      ofList items (.int page) (.int size) = .ok shown ∧
      infoOf (.int items.length) (.int (page + 1 : Nat)) (.int size) = .ok next ∧
      ofList items (.int (page + 1 : Nat)) (.int size) = .ok following ∧
      here.page = page ∧ here.pageSize = size ∧
      here.Describes items shown following ∧ here.endIndex = next.startIndex := by
  have hnumbers : numbers (.int page) (.int size) = .ok (page, size) :=
    numbers_eq_ok_iff.mpr ⟨rfl, hpage, rfl, hsize, hmax⟩
  have hnext : numbers (.int (page + 1 : Nat)) (.int size) = .ok (page + 1, size) :=
    numbers_eq_ok_iff.mpr ⟨rfl, Nat.le_add_left 1 page, rfl, hsize, hmax⟩
  refine ⟨info items.length page size, info items.length (page + 1) size, slice items page size,
    slice items (page + 1) size, ?_, ?_, ?_, ?_, rfl, rfl, info_describes items page hsize,
    (bounds_succ items.length page size).symm⟩
  · rw [infoOf, hnumbers]
    rfl
  · rw [ofList, hnumbers]
    rfl
  · rw [infoOf, hnext]
    rfl
  · rw [ofList, hnext]
    rfl

/-- The last page of a list that fills its pages exactly: nothing follows it. -/
theorem infoOf_describes_full :
    ∃ (here next : Info) (shown following : List Nat),
      1 ≤ 2 ∧ 1 ≤ 3 ∧ ((3 : Nat) : Int) ≤ Argument.maxPageSize ∧
      infoOf (.int 6) (.int 2) (.int 3) = .ok here ∧
      ofList [10, 20, 30, 40, 50, 60] (.int 2) (.int 3) = .ok shown ∧
      infoOf (.int 6) (.int 3) (.int 3) = .ok next ∧
      ofList [10, 20, 30, 40, 50, 60] (.int 3) (.int 3) = .ok following ∧
      here.page = 2 ∧ here.pageSize = 3 ∧
      here.Describes [10, 20, 30, 40, 50, 60] shown following ∧
      here.endIndex = next.startIndex := by
  have hmax : ((3 : Nat) : Int) ≤ Argument.maxPageSize := by decide
  obtain ⟨here, next, shown, following, hdescribed⟩ :=
    infoOf_describes [10, 20, 30, 40, 50, 60] (by decide : 1 ≤ 2) (by decide : 1 ≤ 3) hmax
  exact ⟨here, next, shown, following, by decide, by decide, hmax, hdescribed⟩

end DocView.Page
