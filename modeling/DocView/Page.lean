import DocView.Argument

/-!
# Pages

A list of items is cut into pages of one size, numbered from one. A page past the end is empty,
and its bounds both lie at the end of the list.

## Main definitions

* `Page.bounds`, `Page.slice`, `Page.Info`, `Page.info`
-/

namespace DocView.Page

/-- The half-open bounds of a page. -/
def bounds (total page size : Nat) : Nat × Nat :=
  (min ((page - 1) * size) total, min (page * size) total)

/-- The items of a page. -/
def slice {α : Type} (items : List α) (page size : Nat) : List α :=
  let (start, stop) := bounds items.length page size
  (items.take stop).drop start

/-- Where a page lies in a list of items. -/
structure Info where
  page : Nat
  pageSize : Nat
  totalItems : Nat
  totalPages : Nat
  startIndex : Nat
  endIndex : Nat
deriving DecidableEq, Repr

namespace Info

/-- Whether there is a page after this one. -/
def hasNext (i : Info) : Bool := i.page < i.totalPages

/-- Whether there is a page before this one. -/
def hasPrevious (i : Info) : Bool := 1 < i.page

/-- Whether the page has no items. -/
def isEmpty (i : Info) : Bool := i.endIndex ≤ i.startIndex

/-- The description as an object. -/
def toMembers (i : Info) : Members :=
  [("page", .int i.page), ("page_size", .int i.pageSize), ("total_items", .int i.totalItems),
   ("total_pages", .int i.totalPages), ("start_index", .int i.startIndex),
   ("end_index", .int i.endIndex), ("has_next", .bool i.hasNext),
   ("has_previous", .bool i.hasPrevious)]

end Info

/-- The least number of pages that hold all items. -/
def pageCount (total size : Nat) : Nat := (total + size - 1) / size

/-- Describes a page of a list with `total` items. -/
def info (total page size : Nat) : Info :=
  let (start, stop) := bounds total page size
  ⟨page, size, total, pageCount total size, start, stop⟩

/-! ### Checked forms -/

/-- A checked page number and page size. -/
def numbers (page size : Value) : Result (Nat × Nat) := do
  let page ← Argument.page page
  let size ← Argument.pageSize size Argument.maxPageSize
  .ok (page.toNat, size.toNat)

/-- A page of a list whose number and size are still to be checked. -/
def ofList {α : Type} (items : List α) (page size : Value) : Result (List α) := do
  let (page, size) ← numbers page size
  .ok (slice items page size)

/-- A page of any value that has a length and can be cut. -/
def ofValue (items page size : Value) : Result (List Value) := do
  let (page, size) ← numbers page size
  match items with
  | .object form members => .error (.notSliceable (Value.kindName (.object form members)))
  | .null | .unset | .bool _ | .int _ | .float _ | .date _ | .moment _ =>
    .error (.noLength items.kindName)
  | v => do .ok (slice (← v.elements?) page size)

/-- A number of items as a whole number: doubles are cut, texts read, and a negative number counts
as zero. -/
def itemCount : Value → Result Nat
  | .int n => .ok n.toNat
  | .bool b => .ok (if b then 1 else 0)
  | .float x =>
    if x.isNaN then .error (.badValue "cannot convert float NaN to integer")
    else if x.isInfinite then .error (.outOfRange "cannot convert float infinity to integer")
    else .ok x.truncate.toNat
  | .str s => ofText s
  | .bytes bs => ofText (String.ofList (bs.map fun b => Char.ofNat b.toNat))
  | v => .error (.badArgument
      ("int() argument must be a string, a bytes-like object or a real number, not '"
        ++ v.kindName ++ "'"))
where
  /-- The number that a text gives. -/
  ofText (s : String) : Result Nat :=
    match Text.integer? s with
    | .ok n => .ok n.toNat
    | .error (.tooManyDigits count) => .error (.tooManyDigits count)
    | .error .malformed => .error (.malformedInteger s)

/-- Describes a page when its number, its size and the number of items are still to be checked. -/
def infoOf (total page size : Value) : Result Info := do
  let (page, size) ← numbers page size
  .ok (info (← itemCount total) page size)

end DocView.Page
