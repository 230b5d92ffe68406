import DocView.Proofs.Sorting.Selection

/-!
# Sorting key by key

Sorting by several keys at once is sorting by one key after the other, the least important first.
The later sorts undo nothing that they do not decide themselves, because they are stable, and this
is all that is used of them.

What a stable sort comes to can be said without positions. Items that tie all stand in the order
that they had, and two lists that are in order agree if the items that tie with any given one agree
(`eq_of_sorted_of_ties`). Now a sort leaves the items that tie under it as they were
(`filter_tie_mergeSort`), and leaves the items of any selection in the order of a sort of that
selection. So both ways of sorting leave the items that tie under all keys as they were, and after
the second sort the items that tie under its key are in order under the others.

A document whose field cannot be read stops the sort, and it stops the cascade too, only perhaps at
another of its fields. So for keys of any kind the two ways have the same answers; keys that name
their fields always have one.

## Main results

* `mergeSort_then` - two stable sorts make one
* `Sorting.toOption_documents_cons`, `Sorting.toOption_documents_eq_foldrM`
* `Sorting.documents_cascade`
-/

namespace DocView

open Std (TransCmp OrientedCmp ReflCmp)

/-! ### Ties -/

section MergeSort

variable {α : Type}

/-- Whether two items tie. -/
def ties (cmp : α → α → Ordering) (a b : α) : Bool := cmp a b == .eq

section

variable {cmp : α → α → Ordering} {a b x : α} {l xs ys : List α}

theorem ties_iff : ties cmp a b = true ↔ cmp a b = .eq := beq_iff_eq

theorem isLE_of_ties (h : ties cmp a b) : (cmp a b).isLE := by
  rw [ties_iff.mp h]
  rfl

variable [TransCmp cmp]

theorem ties_self (cmp : α → α → Ordering) [TransCmp cmp] (a : α) : ties cmp a a = true :=
  ties_iff.mpr ReflCmp.compare_self

/-- Two items that tie with a third one tie. -/
theorem isLE_of_ties_of_ties (ha : ties cmp x a) (hb : ties cmp x b) : (cmp a b).isLE :=
  TransCmp.isLE_trans (isLE_of_ties (ties_iff.mpr (OrientedCmp.eq_symm (ties_iff.mp ha))))
    (isLE_of_ties hb)

/-- The first item of a list that is in order is not greater than any other of its items. -/
theorem isLE_head_of_mem (h : (a :: l).Pairwise fun a b => (cmp a b).isLE) (hb : b ∈ a :: l) :
    (cmp a b).isLE := by
  rcases List.mem_cons.mp hb with rfl | hb
  · exact isLE_of_ties (ties_self cmp b)
  · exact (List.pairwise_cons.mp h).1 b hb

/-- **Two lists that are in order agree if their ties do.** -/
theorem eq_of_sorted_of_ties (hxs : xs.Pairwise fun a b => (cmp a b).isLE)
    (hys : ys.Pairwise fun a b => (cmp a b).isLE)
    (hties : ∀ x, xs.filter (ties cmp x) = ys.filter (ties cmp x)) : xs = ys := by
  -- An item is among the items that tie with it, so the lists have the same items.
  have hmem : ∀ {us vs : List α}, (∀ x, us.filter (ties cmp x) = vs.filter (ties cmp x)) →
      ∀ u ∈ us, u ∈ vs := by
    intro us vs h u hu
    have hself : u ∈ us.filter (ties cmp u) := List.mem_filter.mpr ⟨hu, ties_self cmp u⟩
    exact (List.mem_filter.mp (h u ▸ hself)).1
  induction xs generalizing ys with
  | nil =>
    refine (List.eq_nil_iff_forall_not_mem.mpr fun y hy => ?_).symm
    exact List.not_mem_nil (hmem (fun x => (hties x).symm) y hy)
  | cons a xs ih =>
    cases ys with
    | nil => exact absurd (hmem hties a List.mem_cons_self) List.not_mem_nil
    | cons b ys =>
      have hab : (cmp a b).isLE :=
        isLE_head_of_mem hxs (hmem (fun x => (hties x).symm) b List.mem_cons_self)
      have hba : (cmp b a).isLE := isLE_head_of_mem hys (hmem hties a List.mem_cons_self)
      have htie : ties cmp a b = true := ties_iff.mpr (OrientedCmp.isLE_antisymm hab hba)
      -- Both heads come first among the items that tie with them.
      have hheads := hties a
      rw [List.filter_cons_of_pos (ties_self cmp a), List.filter_cons_of_pos htie] at hheads
      obtain ⟨rfl, -⟩ := List.cons.inj hheads
      refine congrArg (a :: ·) (ih hxs.of_cons hys.of_cons fun x => ?_)
      have htails := hties x
      rw [List.filter_cons, List.filter_cons] at htails
      split at htails
      · exact (List.cons.inj htails).2
      · exact htails

theorem pairwise_isLE_mergeSort (cmp : α → α → Ordering) [TransCmp cmp] (l : List α) :
    (l.mergeSort fun a b => (cmp a b).isLE).Pairwise fun a b => (cmp a b).isLE :=
  List.pairwise_mergeSort (fun _ _ _ => TransCmp.isLE_trans) (isLE_total cmp) l

/-- A stable sort leaves the items that tie with a given one as they were. -/
theorem filter_tie_mergeSort (cmp : α → α → Ordering) [TransCmp cmp] (x : α) (l : List α) :
    (l.mergeSort fun a b => (cmp a b).isLE).filter (ties cmp x) = l.filter (ties cmp x) := by
  rw [← filter_mergeSort (fun _ _ _ => TransCmp.isLE_trans) (isLE_total cmp)]
  refine List.mergeSort_of_pairwise (List.Pairwise.imp_of_mem (R := fun _ _ => True) ?_
    (List.pairwise_of_forall fun _ _ => trivial))
  intro a b ha hb _
  exact isLE_of_ties_of_ties (List.mem_filter.mp ha).2 (List.mem_filter.mp hb).2

end

/-! ### One sort after the other -/

variable (first second : α → α → Ordering)

theorem ties_then (a b : α) :
    ties (fun a b => (first a b).then (second a b)) a b
      = (ties first a b && ties second a b) := by
  show ((first a b).then (second a b) == .eq) = _
  unfold ties
  cases first a b <;> rfl

variable [TransCmp first] [TransCmp second]

/-- After the second sort, the items are in order under both comparisons. -/
theorem pairwise_mergeSort_mergeSort (l : List α) :
    ((l.mergeSort fun a b => (second a b).isLE).mergeSort fun a b => (first a b).isLE).Pairwise
      fun a b => ((first a b).then (second a b)).isLE := by
  have hfirst := pairwise_isLE_mergeSort first (l.mergeSort fun a b => (second a b).isLE)
  have hsecond := pairwise_isLE_mergeSort second l
  rw [List.pairwise_iff_forall_sublist] at hfirst hsecond ⊢
  intro a b hab
  have hle := hfirst hab
  cases hcmp : first a b with
  | lt => rfl
  | gt => simp [hcmp] at hle
  | eq =>
    -- The two tie under the second sort, which has left them as the first one put them.
    have hsub := hab.filter (ties first a)
    rw [List.filter_cons_of_pos (ties_self first a), List.filter_cons_of_pos (ties_iff.mpr hcmp),
      List.filter_nil, filter_tie_mergeSort] at hsub
    exact hsecond (hsub.trans List.filter_sublist)

/-- **Two stable sorts make one**: the later one decides, and the earlier one breaks its ties. -/
theorem mergeSort_then (l : List α) :
    l.mergeSort (fun a b => ((first a b).then (second a b)).isLE)
      = (l.mergeSort fun a b => (second a b).isLE).mergeSort fun a b => (first a b).isLE := by
  have hthen := transCmp_then first second
  refine eq_of_sorted_of_ties
    (pairwise_isLE_mergeSort (fun a b => (first a b).then (second a b)) l)
    (pairwise_mergeSort_mergeSort first second l) fun x => ?_
  have hboth : ∀ us : List α, us.filter (ties (fun a b => (first a b).then (second a b)) x)
      = (us.filter (ties first x)).filter (ties second x) := by
    intro us
    rw [List.filter_filter]
    exact List.filter_congr fun a _ => by rw [ties_then, Bool.and_comm]
  rw [filter_tie_mergeSort, hboth, hboth, filter_tie_mergeSort, List.filter_comm,
    List.filter_comm (ties second x), filter_tie_mergeSort]

end MergeSort

namespace Sorting

/-! ### Keys -/

variable {docs sorted : List Value} {key : SortKey} {keys : List SortKey}

/-- The first key decides, and the others break its ties. -/
theorem compareDocuments_cons (key : SortKey) (keys : List SortKey) (a b : Value) :
    compareDocuments (key :: keys) a b
      = (compareDocuments [key] a b).then (compareDocuments keys a b) := by
  unfold compareDocuments
  by_cases hkey : key.isActive
  · rw [List.filter_cons_of_pos hkey, List.filter_cons_of_pos hkey, List.filter_nil, List.map_cons,
      List.map_cons, firstDecision_cons, firstDecision_cons, List.map_nil]
    cases compareByKey key a b <;> rfl
  · rw [List.filter_cons_of_neg hkey, List.filter_cons_of_neg hkey]
    rfl

theorem reads_cons_iff {document : Value} :
    Reads ((key :: keys).filter SortKey.isActive) document
      ↔ Reads ([key].filter SortKey.isActive) document
        ∧ Reads (keys.filter SortKey.isActive) document := by
  rw [← List.singleton_append, List.filter_append]
  exact List.forall_mem_append

/-- Documents are sorted if all their fields can be read, and not otherwise. -/
theorem documents_eq_ok_iff : documents docs keys = .ok sorted
    ↔ (∀ document ∈ docs, Reads (keys.filter SortKey.isActive) document)
      ∧ docs.mergeSort (fun a b => (compareDocuments keys a b).isLE) = sorted := by
  constructor
  · exact fun h => ⟨reads_of_documents_eq_ok h, eq_mergeSort_of_documents_eq_ok h⟩
  · rintro ⟨hreads, rfl⟩
    exact documents_eq_mergeSort_of_reads hreads

/-! ### The cascade -/

theorem documents_cons_eq_ok_iff :
    documents docs (key :: keys) = .ok sorted
      ↔ (do documents (← documents docs keys) [key]) = .ok sorted := by
  have hsame : docs.mergeSort (fun a b => (compareDocuments (key :: keys) a b).isLE)
      = (docs.mergeSort fun a b => (compareDocuments keys a b).isLE).mergeSort
          fun a b => (compareDocuments [key] a b).isLE := by
    simp only [compareDocuments_cons key keys]
    exact mergeSort_then (compareDocuments [key]) (compareDocuments keys) docs
  rw [bind_eq_ok, documents_eq_ok_iff, hsame]
  constructor
  · rintro ⟨hreads, hsorted⟩
    refine ⟨_, documents_eq_ok_iff.mpr ⟨fun d hd => (reads_cons_iff.mp (hreads d hd)).2, rfl⟩,
      documents_eq_ok_iff.mpr ⟨fun d hd => ?_, hsorted⟩⟩
    exact (reads_cons_iff.mp (hreads d (List.mem_mergeSort.mp hd))).1
  · rintro ⟨once, honce, htwice⟩
    obtain ⟨hreads, rfl⟩ := documents_eq_ok_iff.mp honce
    obtain ⟨hreads', hsorted⟩ := documents_eq_ok_iff.mp htwice
    exact ⟨fun d hd => reads_cons_iff.mpr ⟨hreads' d (List.mem_mergeSort.mpr hd), hreads d hd⟩,
      hsorted⟩

/-- **One key more is one sort more**, by that key alone and after the sort by the others. -/
theorem toOption_documents_cons (docs : List Value) (key : SortKey) (keys : List SortKey) :
    (documents docs (key :: keys)).toOption
      = (do documents (← documents docs keys) [key] : Result (List Value)).toOption := by
  ext sorted
  rw [toOption_eq_some, toOption_eq_some]
  exact documents_cons_eq_ok_iff

/-- Sorting by keys is sorting by each of them alone, from the last to the first. -/
theorem toOption_documents_eq_foldrM (docs : List Value) (keys : List SortKey) :
    (documents docs keys).toOption
      = (keys.foldrM (fun key docs => documents docs [key]) docs).toOption := by
  induction keys with
  | nil => rfl
  | cons key keys ih =>
    have hbind : ∀ x y : Result (List Value), x.toOption = y.toOption →
        (x >>= fun docs => documents docs [key]).toOption
          = (y >>= fun docs => documents docs [key]).toOption := by
      intro x y hxy
      ext sorted
      simp only [toOption_eq_some, bind_eq_ok, ← toOption_eq_some (x := x), hxy]
    rw [toOption_documents_cons, List.foldrM_cons]
    exact hbind _ _ ih

/-- **Sorting by several keys is sorting by one after the other.** For keys of any kind, sorting by
one more key answers what sorting by the others and then by that key alone answers, and so on down
to the last key; if one way has no answer, the other has none. Keys that name their fields have
one, whatever the documents are, but for integers of more than 4300 digits: `Value.text` writes
them, and a runtime may refuse to. -/
theorem documents_cascade (docs : List Value) (key : SortKey) (keys : List SortKey) :
    (documents docs (key :: keys)).toOption
        = (do documents (← documents docs keys) [key] : Result (List Value)).toOption ∧
    (documents docs keys).toOption
        = (keys.foldrM (fun key docs => documents docs [key]) docs).toOption ∧
    ((∀ k ∈ key :: keys, k.field.isText) → ∃ sorted,
      documents docs (key :: keys) = .ok sorted ∧
        (do documents (← documents docs keys) [key] : Result (List Value)) = .ok sorted) := by
  refine ⟨toOption_documents_cons docs key keys, toOption_documents_eq_foldrM docs keys,
    fun hkeys => ?_⟩
  have hsorted := documents_eq_mergeSort hkeys docs
  exact ⟨_, hsorted, documents_cons_eq_ok_iff.mp hsorted⟩

/-- A descending key before an ascending one, with one that names no field in between, on documents
that tie on the first, on both or lack a field. -/
theorem documents_cascade_directions :
    let key : SortKey := ⟨.str "kind", .desc, none⟩
    let keys : List SortKey := [⟨.str "", .desc, none⟩, ⟨.str "n", .asc, some .number⟩]
    let docs : List Value :=
      [.record [("kind", .str "a"), ("n", .str "10")], .record [("n", .int 1)],
        .record [("kind", .str "b"), ("n", .int 3)], .record [("kind", .str "A"), ("n", .int 9)],
        .record [("kind", .str "b"), ("n", .str "3.0")]]
    (∀ k ∈ key :: keys, k.field.isText) ∧ ∃ sorted,
      documents docs (key :: keys) = .ok sorted ∧
        (do documents (← documents docs keys) [key] : Result (List Value)) = .ok sorted := by
  intro key keys docs
  have hkeys : ∀ k ∈ key :: keys, k.field.isText := by simp [key, keys, Value.isText]
  exact ⟨hkeys, (documents_cascade docs key keys).2.2 hkeys⟩

end Sorting

end DocView
