import DocView.Proofs.Page
import DocView.Proofs.Sorting.Selection
import DocView.View

/-!
# The pages of a view

A view that is shown page by page is run again for every page: filtered again, sorted again, and
only then cut. That the pages fit together therefore rests on every run coming to the same list.
So a run is taken apart first. `run_eq_ok_iff` says what a run consists of, and of its parts only
one, the pair of page number and page size, is about the page. The rest is the same for all pages,
and so are the fields, which are those of the whole collection.

## Main definitions

* `View.onPage` - a view turned to a page
* `View.Paging` - what the pages of a list show

## Main results

* `View.run_eq_ok_iff` - what a run consists of
* `View.run_onPage` - the pages of a view lose nothing and repeat nothing
-/

namespace DocView.View

variable {settings : Settings} {view : View} {form : Form} {docs : List Value}

/-- The outcome that shows one page of a list of documents. -/
def outcome (docs matched ordered : List Value) (fields warnings : List String) (page size : Nat) :
    Outcome where
  items := Page.slice ordered page size
  fields := fields
  page := Page.info ordered.length page size
  scanned := docs.length
  matched := matched.length
  total := ordered.length
  warnings := warnings

/-- **What a run consists of.** It answers if every part of it does, and what it shows is put
together from the parts. -/
theorem run_eq_ok_iff {o : Outcome} :
    view.run settings (.list form docs) = .ok o ↔
      ∃ matched warnings keys ordered fields page size,
        view.passing docs = .ok (matched, warnings) ∧ view.keys settings docs = .ok keys ∧
        Sorting.documents matched keys = .ok ordered ∧
        Page.numbers view.page (view.pageSize.orElse settings.pagination.itemsPerPage)
          = .ok (page, size) ∧
        Fields.user (.array docs) settings.engine.internalPrefix settings.engine.fieldSample
          = .ok fields ∧
        o = outcome docs matched ordered fields warnings page size := by
  constructor
  · intro h
    obtain ⟨_, hdocs, h₁⟩ := bind_eq_ok.mp h
    obtain rfl := Except.ok.inj hdocs
    obtain ⟨⟨matched, warnings⟩, hpassing, h₂⟩ := bind_eq_ok.mp h₁
    obtain ⟨keys, hkeys, h₃⟩ := bind_eq_ok.mp h₂
    obtain ⟨ordered, hordered, h₄⟩ := bind_eq_ok.mp h₃
    obtain ⟨items, hitems, h₅⟩ := bind_eq_ok.mp h₄
    obtain ⟨info, hinfo, h₆⟩ := bind_eq_ok.mp h₅
    obtain ⟨fields, hfields, ho⟩ := bind_eq_ok.mp h₆
    obtain ⟨⟨page, size⟩, hnumbers, hslice⟩ := bind_eq_ok.mp hitems
    obtain rfl := Except.ok.inj hslice
    rw [Page.infoOf, hnumbers] at hinfo
    obtain rfl := Except.ok.inj hinfo
    exact ⟨matched, warnings, keys, ordered, fields, page, size, hpassing, hkeys, hordered,
      hnumbers, hfields, (Except.ok.inj ho).symm⟩
  · rintro ⟨matched, warnings, keys, ordered, fields, page, size, hpassing, hkeys, hordered,
      hnumbers, hfields, rfl⟩
    have hitems : Page.ofList ordered view.page
        (view.pageSize.orElse settings.pagination.itemsPerPage)
          = .ok (Page.slice ordered page size) := by
      rw [Page.ofList, hnumbers]
      rfl
    have hinfo : Page.infoOf (.int ordered.length) view.page
        (view.pageSize.orElse settings.pagination.itemsPerPage)
          = .ok (Page.info ordered.length page size) := by
      rw [Page.infoOf, hnumbers]
      rfl
    refine bind_eq_ok.mpr ⟨docs, rfl, bind_eq_ok.mpr ⟨_, hpassing, bind_eq_ok.mpr ⟨_, hkeys, ?_⟩⟩⟩
    refine bind_eq_ok.mpr ⟨_, hordered, bind_eq_ok.mpr ⟨_, hitems, bind_eq_ok.mpr ⟨_, hinfo, ?_⟩⟩⟩
    exact bind_eq_ok.mpr ⟨_, hfields, rfl⟩

/-! ### Page by page -/

/-- A view turned to a page. -/
def onPage (view : View) (page : Nat) : View := { view with page := .int page }

/-- Outcomes that show a list of documents page by page. -/
structure Paging (docs matched ordered : List Value) (fields : List String) (size : Nat)
    (shown : Nat → Outcome) : Prop where
  /-- Every page says that there are as many documents as passed. -/
  total : ∀ page, 1 ≤ page → (shown page).total = matched.length
  /-- Every page says that there are as many pages. -/
  totalPages : ∀ page, 1 ≤ page →
    (shown page).page.totalPages = Page.pageCount matched.length size
  /-- The counts of every page are those of the collection, of what passed and of the page. -/
  counts : ∀ page, 1 ≤ page → (shown page).counts =
    [("documents_scanned", .int docs.length), ("documents_matched", .int matched.length),
      ("documents_returned", .int (shown page).items.length)]
  /-- Every page names the same fields. -/
  fields : ∀ page, 1 ≤ page → (shown page).fields = fields
  /-- The pages, one after the other, are the list. -/
  items : (List.range (Page.pageCount matched.length size)).flatMap
    (fun i => (shown (i + 1)).items) = ordered
  /-- There is nothing behind the last page. -/
  beyond : ∀ page, Page.pageCount matched.length size < page → (shown page).items = []

theorem paging_outcome {matched ordered : List Value} {fields warnings : List String} {size : Nat}
    (hsize : 0 < size) (hlength : ordered.length = matched.length) :
    Paging docs matched ordered fields size
      fun page => outcome docs matched ordered fields warnings page size where
  total _ _ := hlength
  totalPages _ _ := by rw [← hlength]; rfl
  counts _ _ := rfl
  fields _ _ := rfl
  items := by rw [← hlength]; exact Page.flatMap_slice_pageCount ordered hsize
  beyond _ hpage := Page.slice_eq_nil hsize (hlength ▸ hpage)

/-- **The pages of a view lose nothing and repeat nothing.** Let a view ask for pages of `size`
documents, and let it answer on the page that it shows. Then it answers on every page. The pages,
one after the other, are the documents that pass in the order of the keys, whose types are those of
the whole collection; they agree on the number of documents and of pages, and behind the last page
there is nothing. The fields are found without looking at the view. -/
theorem run_onPage {first : Outcome} {size : Nat} (hsize : view.pageSize = .int size)
    (hpos : 1 ≤ size) (hfirst : view.run settings (.list form docs) = .ok first) :
    ∃ filters matched warnings keys ordered fields,
      FilterSet.ofConditions view.conditions view.logic = .ok filters ∧
      filters.apply (.array docs) = .ok (matched, warnings) ∧
      view.keys settings docs = .ok keys ∧
      Sorting.documents matched keys = .ok ordered ∧
      Fields.user (.array docs) settings.engine.internalPrefix settings.engine.fieldSample
        = .ok fields ∧
      ∃ shown : Nat → Outcome,
        (∀ page, 1 ≤ page →
          (view.onPage page).run settings (.list form docs) = .ok (shown page)) ∧
        Paging docs matched ordered fields size shown := by
  obtain ⟨matched, warnings, keys, ordered, fields, p, n, hpassing, hkeys, hordered, hnumbers,
    hfields, -⟩ := run_eq_ok_iff.mp hfirst
  obtain ⟨filters, hfilters, happly⟩ := bind_eq_ok.mp hpassing
  have htruthy : view.pageSize.orElse settings.pagination.itemsPerPage = .int size := by
    rw [hsize, Value.orElse, if_pos]
    simp only [Value.truthy, bne_iff_ne]
    omega
  rw [htruthy] at hnumbers
  obtain ⟨-, -, hn, -, hmax⟩ := Page.numbers_eq_ok_iff.mp hnumbers
  obtain rfl : n = size := by
    have := Value.int.inj hn
    omega
  refine ⟨filters, matched, warnings, keys, ordered, fields, hfilters, happly, hkeys, hordered,
    hfields, fun page => outcome docs matched ordered fields warnings page n, ?_,
    paging_outcome (by omega) (Sorting.length_documents hordered)⟩
  intro page hpage
  -- Only the page number differs from the run that is known to answer.
  refine run_eq_ok_iff.mpr ⟨matched, warnings, keys, ordered, fields, page, n, hpassing, hkeys,
    hordered, ?_, hfields, rfl⟩
  show Page.numbers (.int page) (view.pageSize.orElse settings.pagination.itemsPerPage) = _
  rw [htruthy]
  exact Page.numbers_eq_ok_iff.mpr ⟨rfl, hpage, rfl, hpos, hmax⟩

/-- Documents of two kinds, whose column `n` is text because of one that is of neither. -/
def ledger : List Value :=
  [.record [("n", .str "10"), ("kind", .str "a")], .record [("n", .null), ("kind", .str "b")],
    .record [("n", .str "x"), ("_rev", .str "1")],
    .record [("n", .str "9"), ("kind", .str "a")], .record [("n", .int 9), ("kind", .str "a")]]

/-- A view of the documents of one kind, two on a page. -/
def ledgerView : View :=
  ⟨.array [.record [("field", .str "kind"), ("value", .str "a")]], .null,
    .array [.record [("field", .str "n"), ("direction", .str "desc")]], .int 2, .int 2⟩

/-- Three of five documents pass, and two of them go on a page. -/
theorem run_onPage_ledger :
    ledgerView.pageSize = .int (2 : Nat) ∧ 1 ≤ 2 ∧
      ∃ first, ledgerView.run .default (.array ledger) = .ok first ∧
      ∃ matched ordered fields shown,
        (∀ page, 1 ≤ page →
          (ledgerView.onPage page).run .default (.array ledger) = .ok (shown page)) ∧
        Paging ledger matched ordered fields 2 shown := by
  let keys : List SortKey := [⟨.str "n", .desc, some .string⟩]
  obtain ⟨⟨matched, warnings⟩, hpassing⟩ : ∃ answer, ledgerView.passing ledger = .ok answer :=
    ⟨_, rfl⟩
  have hkeys : ledgerView.keys .default ledger = .ok keys := by rfl
  obtain ⟨ordered, hordered⟩ : ∃ ordered, Sorting.documents matched keys = .ok ordered :=
    ⟨_, Sorting.documents_eq_mergeSort (by simp [keys, Value.isText]) matched⟩
  have hfields : Fields.user (.array ledger) Settings.default.engine.internalPrefix
      Settings.default.engine.fieldSample = .ok ["kind", "n"] := by rfl
  have hnumbers : Page.numbers ledgerView.page
      (ledgerView.pageSize.orElse Settings.default.pagination.itemsPerPage) = .ok (2, 2) := by rfl
  have hfirst : ledgerView.run .default (.array ledger)
      = .ok (outcome ledger matched ordered ["kind", "n"] warnings 2 2) :=
    run_eq_ok_iff.mpr ⟨matched, warnings, keys, ordered, ["kind", "n"], 2, 2, hpassing, hkeys,
      hordered, hnumbers, hfields, rfl⟩
  obtain ⟨_, matched, _, _, ordered, fields, -, -, -, -, -, shown, hruns, hpaging⟩ :=
    run_onPage rfl (by decide) hfirst
  exact ⟨rfl, by decide, _, hfirst, matched, ordered, fields, shown, hruns, hpaging⟩

end DocView.View
