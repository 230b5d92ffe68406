import Mathlib.Data.Fintype.EquivFin
import Mathlib.Data.List.OfFn

/-!
# Stable sorting, by positions

A sorted list alone does not say whether the sort was stable: where two items tie, and above all
where they are equal, the output does not tell which of them came first. So stability is a
statement about positions. `IsStableSort cmp input output σ` says that `σ` lists the positions of
the input in the order of the output, that the items stand in order, and that among items that tie
the positions increase.

Merge sort is stable in this sense. The core library says so by tagging every item with its
position and breaking ties by the tags; the permutation is read off the tags of the sorted list.

## Main definitions

* `IsStableSort`
* `sortPerm` - the positions of the input in sorted order

## Main results

* `mergeSort_isStableSort`
-/

namespace DocView

open Std (TransCmp OrientedCmp)

variable {α : Type}

/-- `σ` lists the positions of the input in the order of the output, which is in order under `cmp`
and keeps ties in their input order. -/
structure IsStableSort (cmp : α → α → Ordering) (input output : List α)
    (σ : Equiv.Perm (Fin input.length)) : Prop where
  /-- The output holds the items of the input, each position once. -/
  output_eq : output = List.ofFn fun i => input.get (σ i)
  /-- Earlier in the output is not greater. -/
  inOrder : ∀ i j, i < j → (cmp (input.get (σ i)) (input.get (σ j))).isLE
  /-- Items that tie stand in the output as they stood in the input. -/
  stable : ∀ i j, cmp (input.get (σ i)) (input.get (σ j)) = .eq → (i < j ↔ σ i < σ j)

/-! ### Tagging items with their positions -/

/-- The sorted list, each item with the position it had before. -/
def tagged (le : α → α → Bool) (l : List α) : List (α × ℕ) :=
  l.zipIdx.mergeSort (List.zipIdxLE le)

variable {le : α → α → Bool} {l : List α}

theorem length_tagged : (tagged le l).length = l.length := by
  rw [tagged, List.length_mergeSort, List.length_zipIdx]

theorem map_fst_tagged : (tagged le l).map Prod.fst = l.mergeSort le := List.mergeSort_zipIdx

theorem getElem?_of_mem_tagged {p : α × ℕ} (hp : p ∈ tagged le l) : l[p.2]? = some p.1 := by
  rw [tagged, List.mem_mergeSort] at hp
  exact List.mem_zipIdx_iff_getElem?.mp hp

theorem nodup_positions : ((tagged le l).map Prod.snd).Nodup := by
  have hperm : ((tagged le l).map Prod.snd).Perm (l.zipIdx.map Prod.snd) :=
    (List.mergeSort_perm _ _).map _
  rw [hperm.nodup_iff, List.zipIdx_map_snd]
  exact List.nodup_range'

/-- The position in the input of the item that the sorted list has at `i`. -/
def sortPosition (le : α → α → Bool) (l : List α) (i : Fin l.length) : Fin l.length :=
  ⟨((tagged le l).get (i.cast length_tagged.symm)).2, by
    have hsome := getElem?_of_mem_tagged (List.get_mem (tagged le l) (i.cast length_tagged.symm))
    exact (List.getElem?_eq_some_iff.mp hsome).1⟩

theorem get_tagged (i : Fin l.length) :
    (tagged le l).get (i.cast length_tagged.symm)
      = (l.get (sortPosition le l i), (sortPosition le l i : ℕ)) := by
  have hsome := getElem?_of_mem_tagged (List.get_mem (tagged le l) (i.cast length_tagged.symm))
  obtain ⟨hlt, hget⟩ := List.getElem?_eq_some_iff.mp hsome
  exact Prod.ext hget.symm rfl

theorem sortPosition_injective : Function.Injective (sortPosition le l) := by
  intro i j hij
  have hi : (i : ℕ) < (tagged le l).length := by rw [length_tagged]; exact i.isLt
  have hj : (j : ℕ) < (tagged le l).length := by rw [length_tagged]; exact j.isLt
  have hti : (i : ℕ) < ((tagged le l).map Prod.snd).length := by simpa using hi
  have htj : (j : ℕ) < ((tagged le l).map Prod.snd).length := by simpa using hj
  have htags : ((tagged le l).map Prod.snd)[(i : ℕ)] = ((tagged le l).map Prod.snd)[(j : ℕ)] := by
    rw [List.getElem_map, List.getElem_map]
    exact congrArg Fin.val hij
  exact Fin.ext ((nodup_positions.getElem_inj_iff).mp htags)

/-- The positions of the input in sorted order. -/
noncomputable def sortPerm (le : α → α → Bool) (l : List α) : Equiv.Perm (Fin l.length) :=
  Equiv.ofBijective (sortPosition le l) (Finite.injective_iff_bijective.mp sortPosition_injective)

theorem sortPerm_apply (i : Fin l.length) : sortPerm le l i = sortPosition le l i := rfl

/-! ### Merge sort -/

/-- Of two items, one may stand before the other. -/
theorem isLE_total (cmp : α → α → Ordering) [OrientedCmp cmp] (a b : α) :
    ((cmp a b).isLE || (cmp b a).isLE) = true := by
  have hswap : cmp b a = (cmp a b).swap := OrientedCmp.eq_swap
  rw [hswap]
  cases cmp a b <;> rfl

theorem mergeSort_eq_ofFn : l.mergeSort le = List.ofFn fun i => l.get (sortPerm le l i) := by
  rw [← map_fst_tagged]
  refine List.ext_getElem (by simp [length_tagged]) fun n h₁ h₂ => ?_
  have hn : n < l.length := by simpa using h₂
  rw [List.getElem_map, List.getElem_ofFn, sortPerm_apply]
  exact congrArg Prod.fst (get_tagged (⟨n, hn⟩ : Fin l.length))

theorem zipIdxLE_iff {p q : α × ℕ} :
    List.zipIdxLE le p q = true ↔ le p.1 q.1 = true ∧ (le q.1 p.1 = true → p.2 ≤ q.2) := by
  unfold List.zipIdxLE
  by_cases hpq : le p.1 q.1 <;> by_cases hqp : le q.1 p.1 <;> simp [hpq, hqp]

/-- Ties are broken by position, so earlier in the sorted list means not greater and, between
items that tie, an earlier position. -/
theorem sortPerm_inOrder (trans : ∀ a b c, le a b → le b c → le a c)
    (total : ∀ a b, le a b || le b a) {i j : Fin l.length} (hij : i < j) :
    le (l.get (sortPerm le l i)) (l.get (sortPerm le l j)) = true ∧
      (le (l.get (sortPerm le l j)) (l.get (sortPerm le l i)) = true →
        sortPerm le l i < sortPerm le l j) := by
  have hsorted : (tagged le l).Pairwise fun p q => List.zipIdxLE le p q = true :=
    List.pairwise_mergeSort (List.zipIdxLE_trans trans) (List.zipIdxLE_total total) _
  have hpair := List.pairwise_iff_get.mp hsorted (i.cast length_tagged.symm)
    (j.cast length_tagged.symm) hij
  rw [get_tagged, get_tagged, zipIdxLE_iff] at hpair
  refine ⟨hpair.1, fun htie => lt_of_le_of_ne (hpair.2 htie) fun heq => ?_⟩
  exact hij.ne ((sortPerm le l).injective heq)

/-- **Merge sort is stable.** The comparison has to be a total preorder, and that is all: it need
not tell different items apart. -/
theorem mergeSort_isStableSort (cmp : α → α → Ordering) [TransCmp cmp] (l : List α) :
    IsStableSort cmp l (l.mergeSort fun a b => (cmp a b).isLE)
      (sortPerm (fun a b => (cmp a b).isLE) l) := by
  have trans : ∀ a b c, (cmp a b).isLE → (cmp b c).isLE → (cmp a c).isLE :=
    fun _ _ _ => TransCmp.isLE_trans
  have forward : ∀ i j, cmp (l.get (sortPerm (fun a b => (cmp a b).isLE) l i))
      (l.get (sortPerm (fun a b => (cmp a b).isLE) l j)) = .eq → i < j →
      sortPerm (fun a b => (cmp a b).isLE) l i < sortPerm (fun a b => (cmp a b).isLE) l j := by
    intro i j htie hij
    refine (sortPerm_inOrder trans (isLE_total cmp) hij).2 ?_
    rw [OrientedCmp.eq_symm htie]
    rfl
  refine ⟨mergeSort_eq_ofFn, fun i j hij => (sortPerm_inOrder trans (isLE_total cmp) hij).1, ?_⟩
  intro i j htie
  refine ⟨forward i j htie, fun hσ => ?_⟩
  rcases lt_trichotomy i j with h | h | h
  · exact h
  · exact absurd hσ (by rw [h]; exact lt_irrefl _)
  · exact absurd hσ (forward j i (OrientedCmp.eq_symm htie) h).asymm

end DocView
