import DocView.Filter.Set
import DocView.Proofs.Sorting.Documents

/-!
# Selecting before or after sorting

It makes no difference whether a collection is filtered first and sorted then, or sorted first and
filtered then. A stable sort leaves no freedom: an item goes behind all items that are smaller and
before all others that came after it, and leaving items out moves none of the rest past another.

Two things could spoil this. A type inferred from the documents that pass would change the order
as conditions change; here the keys are given, with whatever types, and are the same on both
sides. And a condition that fails on a document ends the run, in whatever order the documents come.

## Main results

* `filter_mergeSort` - a stable sort commutes with leaving items out
* `Sorting.documents_apply_comm`
-/

namespace DocView

open Std (TransCmp)

/-! ### A stable sort and a selection -/

section MergeSort

variable {α : Type} {le : α → α → Bool}

/-- A list that starts with items of one kind and goes on with items of the other can be divided
between them in one way only. -/
theorem append_inj_of_forall {p : α → Bool} {xs ys xs' ys' : List α}
    (hxs : ∀ x ∈ xs, p x = true) (hys : ∀ y ∈ ys, p y = false)
    (hxs' : ∀ x ∈ xs', p x = true) (hys' : ∀ y ∈ ys', p y = false) (h : xs ++ ys = xs' ++ ys') :
    xs = xs' ∧ ys = ys' := by
  have hfront : ∀ {us vs : List α}, (∀ u ∈ us, p u = true) → (∀ v ∈ vs, p v = false) →
      (us ++ vs).filter p = us := by
    intro us vs hus hvs
    rw [List.filter_append, List.filter_eq_self.mpr hus, List.filter_eq_nil_iff.mpr, List.append_nil]
    intro v hv
    simp [hvs v hv]
  have hfirst : xs = xs' := by rw [← hfront hxs hys, h, hfront hxs' hys']
  subst hfirst
  exact ⟨rfl, List.append_cancel_left h⟩

/-- Where an item goes: behind the items that it may not precede and before those that it may. -/
theorem mergeSort_cons_split (trans : ∀ a b c, le a b → le b c → le a c)
    (total : ∀ a b, le a b || le b a) (a : α) (l : List α) :
    ∃ smaller others, (a :: l).mergeSort le = smaller ++ a :: others ∧
      l.mergeSort le = smaller ++ others ∧
      (∀ b ∈ smaller, (!le a b) = true) ∧ ∀ b ∈ others, (!le a b) = false := by
  obtain ⟨smaller, others, hcons, hrest, hsmaller⟩ := List.mergeSort_cons trans total a l
  refine ⟨smaller, others, hcons, hrest, hsmaller, fun b hb => ?_⟩
  have hsorted := List.pairwise_mergeSort trans total (a :: l)
  rw [hcons, List.pairwise_append, List.pairwise_cons] at hsorted
  simpa using hsorted.2.1.1 b hb

/-- **A stable sort commutes with leaving items out.** -/
theorem filter_mergeSort (trans : ∀ a b c, le a b → le b c → le a c)
    (total : ∀ a b, le a b || le b a) (p : α → Bool) (l : List α) :
    (l.filter p).mergeSort le = (l.mergeSort le).filter p := by
  induction l with
  | nil => simp
  | cons a l ih =>
    obtain ⟨smaller, others, hcons, hrest, hsmaller, hothers⟩ :=
      mergeSort_cons_split trans total a l
    rw [hrest, List.filter_append] at ih
    rw [hcons, List.filter_append]
    by_cases ha : p a = true
    · rw [List.filter_cons_of_pos ha, List.filter_cons_of_pos ha]
      obtain ⟨smaller', others', hcons', hrest', hsmaller', hothers'⟩ :=
        mergeSort_cons_split trans total a (l.filter p)
      -- Both splits of the sorted rest are at the place of `a`.
      obtain ⟨rfl, rfl⟩ := append_inj_of_forall hsmaller' hothers'
        (fun b hb => hsmaller b (List.mem_filter.mp hb).1)
        (fun b hb => hothers b (List.mem_filter.mp hb).1) (hrest'.symm.trans ih)
      exact hcons'
    · rw [List.filter_cons_of_neg ha, List.filter_cons_of_neg ha]
      exact ih

end MergeSort

/-! ### What a filter set keeps -/

namespace FilterSet

/-- Whether a filter set keeps a document; one on which a condition fails is not kept. -/
def keeps (f : FilterSet) (document : Value) : Bool :=
  match f.passes document with
  | .ok kept => kept
  | .error _ => false

/-- No condition that is tried on one of these documents fails. -/
def Answers (f : FilterSet) (documents : List Value) : Prop :=
  ∀ document ∈ documents, ∃ kept, f.passes document = .ok kept

variable {f : FilterSet} {documents : List Value}

theorem select_eq_filter (h : f.Answers documents) :
    f.select documents = .ok (documents.filter f.keeps) := by
  induction documents with
  | nil => rfl
  | cons document rest ih =>
    obtain ⟨kept, hkept⟩ := h document List.mem_cons_self
    have hrest : f.select rest = .ok (rest.filter f.keeps) :=
      ih fun d hd => h d (List.mem_cons_of_mem document hd)
    have hkeeps : f.keeps document = kept := by rw [keeps, hkept]
    rw [select, hkept, hrest, List.filter_cons, hkeeps]
    rfl

/-- A filter set without conditions keeps everything. -/
theorem filter_keeps_of_isEmpty (h : f.conditions.isEmpty = true) (documents : List Value) :
    documents.filter f.keeps = documents := by
  refine List.filter_eq_self.mpr fun document _ => ?_
  rw [keeps, passes, if_pos h]

/-- What is kept of a collection that every condition answers for; only the warnings can fail. -/
theorem apply_eq (h : f.Answers documents) :
    f.apply (.array documents)
      = (if f.conditions.isEmpty then .ok [] else f.warnings).map fun warnings =>
          (documents.filter f.keeps, warnings) := by
  show (if f.conditions.isEmpty then .ok (documents, [])
    else do let lines ← f.warnings; .ok (← f.select documents, lines) : Result _) = _
  by_cases hempty : f.conditions.isEmpty = true
  · rw [if_pos hempty, if_pos hempty, filter_keeps_of_isEmpty hempty]
    rfl
  · rw [if_neg hempty, if_neg hempty, select_eq_filter h]
    cases f.warnings <;> rfl

end FilterSet

namespace Sorting

variable {docs sorted : List Value} {keys : List SortKey}

/-- Documents that are sorted have been read. -/
theorem reads_of_documents_eq_ok (h : documents docs keys = .ok sorted) :
    ∀ document ∈ docs, Reads (keys.filter SortKey.isActive) document := by
  unfold documents at h
  generalize keys.filter SortKey.isActive = active at h
  intro document hdocument
  cases active with
  | nil => exact List.forall_mem_nil _
  | cons key rest =>
    obtain ⟨rows, hrows, -⟩ := bind_eq_ok.mp h
    obtain ⟨_, hrow⟩ := exists_ok_of_mapM_eq_ok hrows document hdocument
    obtain ⟨values, hvalues, -⟩ := bind_eq_ok.mp hrow
    intro key hkey
    obtain ⟨v, hv⟩ := exists_ok_of_mapM_eq_ok hvalues key hkey
    exact field_eq_keyValue hv

/-- What sorting answers, if it answers, is the stable sort. -/
theorem eq_mergeSort_of_documents_eq_ok (h : documents docs keys = .ok sorted) :
    docs.mergeSort (fun a b => (compareDocuments keys a b).isLE) = sorted := by
  rw [documents_eq_mergeSort_of_reads (reads_of_documents_eq_ok h)] at h
  exact Except.ok.inj h

theorem length_documents (h : documents docs keys = .ok sorted) : sorted.length = docs.length := by
  rw [← eq_mergeSort_of_documents_eq_ok h, List.length_mergeSort]

/-- Documents that can be sorted can still be sorted when some are left out, and then they stand in
the order in which they stood among the others. -/
theorem documents_filter (h : documents docs keys = .ok sorted) (p : Value → Bool) :
    documents (docs.filter p) keys = .ok (sorted.filter p) := by
  have hreads := reads_of_documents_eq_ok h
  rw [documents_eq_mergeSort_of_reads fun document hdocument =>
    hreads document (List.mem_filter.mp hdocument).1, ← eq_mergeSort_of_documents_eq_ok h]
  exact congrArg Except.ok
    (filter_mergeSort (fun _ _ _ => TransCmp.isLE_trans) (isLE_total _) p docs)

theorem answers_of_documents_eq_ok {filters : FilterSet} (hanswers : filters.Answers docs)
    (h : documents docs keys = .ok sorted) : filters.Answers sorted := by
  intro document hdocument
  rw [← eq_mergeSort_of_documents_eq_ok h, List.mem_mergeSort] at hdocument
  exact hanswers document hdocument

/-- **Filtering never changes the order of what it keeps.** If no condition fails on a document of
the collection, then sorting what a filter set keeps is the same as filtering the sorted
collection: the same documents in the same order, the same warnings, and the same failure if the
warnings fail. The keys may be any, above all those whose types were inferred from the whole
collection. If their fields are texts the collection can be sorted, where values can be written as
text: of `Value.text` every integer has one, of a runtime perhaps none of more than 4300 digits. -/
theorem documents_apply_comm {filters : FilterSet} (hanswers : filters.Answers docs) :
    ((∀ key ∈ keys, key.field.isText) → ∃ sorted, documents docs keys = .ok sorted) ∧
    ∀ sorted, documents docs keys = .ok sorted →
      (do
        let (kept, warnings) ← filters.apply (.array docs)
        .ok (← documents kept keys, warnings))
        = filters.apply (.array sorted) := by
  refine ⟨fun hkeys => ⟨_, documents_eq_mergeSort hkeys docs⟩, fun sorted hsorted => ?_⟩
  rw [FilterSet.apply_eq hanswers, FilterSet.apply_eq (answers_of_documents_eq_ok hanswers hsorted)]
  cases (if filters.conditions.isEmpty then .ok [] else filters.warnings : Result (List String)) with
  | error e => rfl
  | ok warnings =>
    show (do let out ← documents (docs.filter filters.keeps) keys; .ok (out, warnings) : Result _) = _
    rw [documents_filter hsorted]
    rfl

/-- The type of the key is inferred from the whole collection: text, because of one document that
does not pass. The documents that pass, on their own, would have made it a number. -/
theorem documents_apply_comm_mixed :
    let docs : List Value :=
      [.record [("n", .str "10"), ("kind", .str "a")], .record [("n", .null), ("kind", .str "b")],
        .record [("n", .str "x"), ("kind", .str "b")],
        .record [("n", .str "9"), ("kind", .str "a")], .record [("n", .int 9), ("kind", .str "a")]]
    let keys : List SortKey := [⟨.str "n", .desc, some .string⟩]
    let filters : FilterSet := ⟨[⟨.str "kind", .str "equals", .str "a", .string⟩], .and⟩
    SortKey.resolveAll docs Inference.defaultWindow
        [.record [("field", .str "n"), ("direction", .str "desc")]] = .ok keys ∧
      filters.Answers docs ∧ (∀ key ∈ keys, key.field.isText) ∧
      ∃ sorted, documents docs keys = .ok sorted ∧
        (do
          let (kept, warnings) ← filters.apply (.array docs)
          .ok (← documents kept keys, warnings))
          = filters.apply (.array sorted) := by
  intro docs keys filters
  have hanswers : filters.Answers docs := by
    intro document hdocument
    simp only [docs, List.mem_cons, List.not_mem_nil, or_false] at hdocument
    rcases hdocument with rfl | rfl | rfl | rfl | rfl
    all_goals exact ⟨_, rfl⟩
  have hkeys : ∀ key ∈ keys, key.field.isText := by simp [keys, Value.isText]
  obtain ⟨hsorts, hcomm⟩ := @documents_apply_comm docs keys filters hanswers
  obtain ⟨sorted, hsorted⟩ := hsorts hkeys
  exact ⟨rfl, hanswers, hkeys, sorted, hsorted, hcomm sorted hsorted⟩

end Sorting

end DocView
