import DocView.Proofs.Filter.Set
import DocView.Proofs.Value.Interchange
import Mathlib.Data.List.Pairwise

/-!
# When the warnings fail

A filter set warns of its unknown operators one by one, each once and in order. Only there can a
run fail that has nothing to do with a document. Operators are meant to be texts, and texts can
always be listed; but a condition takes any value for its operator, and not all values can be told
apart or have an order.

Of several equal operators only the first is listed, and which one that is depends on the order of
the conditions. It makes no difference, since equal values have an order with the same values. So
the warnings answer if and only if any two unknown operators are equal or in an order, and that is a
condition on the operators, not on their list: it passes to fewer of them, and any order will do.

## Main definitions

* `Value.Comparable` - equal, or with an order
* `Value.AreListable` - values that can be listed each once and in order

## Main results

* `FilterSet.exists_mem_distinct`, `FilterSet.pairwise_distinct` - what a list without repetition has
* `FilterSet.exists_warnings_iff` - when there is a list of warnings
* `Value.AreListable.of_isText` - texts can be listed
-/

namespace DocView

namespace Value

variable {a b c : Value} {vs ws : List Value}

/-- Equal, or with an order. -/
def Comparable (a b : Value) : Prop := equal a b ∨ (holds? .less a b).isSome

/-- Values that can be listed, each once and in order. -/
structure AreListable (vs : List Value) : Prop where
  /-- Every value can be told from others: it could be the key of a table. -/
  hashable : ∀ v ∈ vs, Document.unhashable? v = none
  /-- Any two values are equal, or have an order. -/
  comparable : ∀ v ∈ vs, ∀ w ∈ vs, Comparable v w

theorem AreListable.mono (h : AreListable vs) (hsub : ws ⊆ vs) : AreListable ws where
  hashable v hv := h.hashable v (hsub hv)
  comparable v hv w hw := h.comparable v (hsub hv) w (hsub hw)

/-- Texts can be listed. -/
theorem AreListable.of_isText (h : ∀ v ∈ vs, v.isText) : AreListable vs where
  hashable v hv := by
    cases v with
    | str s => rfl
    | _ => cases h _ hv
  comparable v hv w hw := by
    cases v with
    | str s =>
      cases w with
      | str t => exact .inr (by rw [holds?, Option.isSome_some])
      | _ => cases h _ hw
    | _ => cases h _ hv

/-! ### Keys of tables -/

theorem unhashableItem?_eq_none {items : List Value} :
    Document.unhashableItem? items = none ↔ ∀ v ∈ items, Document.unhashable? v = none := by
  induction items with
  | nil => exact ⟨fun _ => List.forall_mem_nil _, fun _ => rfl⟩
  | cons v rest ih =>
    rw [Document.unhashableItem?, Option.or_eq_none_iff, ih, List.forall_mem_cons]

/-- What can be the key of a table has no object in it. -/
theorem isTidy_of_unhashable? (h : Document.unhashable? a = none) : a.IsTidy := by
  induction a using containerInduction with
  | list form items ih =>
    cases form with
    | plain => cases h
    | frozen => exact .list fun v hv => ih v hv (unhashableItem?_eq_none.mp h v hv)
  | object => cases h
  | scalar a hscalar => exact .scalar hscalar

/-- And it is comparable with itself, although a NaN in it is equal to nothing. -/
theorem comparable_self (h : Document.unhashable? a = none) : Comparable a a := by
  induction a using containerInduction with
  | list form items ih =>
    cases form with
    | plain => cases h
    | frozen =>
      have hitems := unhashableItem?_eq_none.mp h
      -- The items that are equal to themselves do not count; the first other one has an order.
      have hself : equalItems items items ∨ (itemsHold? .less items items).isSome := by
        clear h
        induction items with
        | nil => exact .inl rfl
        | cons v rest ihrest =>
          obtain ⟨ihv, ihitems⟩ := List.forall_mem_cons.mp ih
          obtain ⟨hv, hrest⟩ := List.forall_mem_cons.mp hitems
          by_cases hequal : equal v v
          · simp only [equalItems, itemsHold?, hequal, Bool.true_and, if_true]
            exact ihrest ihitems hrest
          · simp only [itemsHold?, if_neg hequal]
            exact .inr ((ihv hv).resolve_left hequal)
      simpa [Comparable, equal, holds?] using hself
  | object => cases h
  | scalar a hscalar =>
    cases a with
    | list | object => cases hscalar
    | null | unset => exact .inl rfl
    | bool | int => exact .inr (by simp [holds?, place?])
    | float x => exact .inr (by cases hx : x.place? <;> simp [holds?, place?, hx])
    | str | bytes | date => exact .inr (by simp [holds?])
    | moment m => exact .inr (by simp [holds?, Moment.keys?])

theorem AreListable.singleton (h : Document.unhashable? a = none) : AreListable [a] where
  hashable := List.forall_mem_singleton.mpr h
  comparable := List.forall_mem_singleton.mpr (List.forall_mem_singleton.mpr (comparable_self h))

theorem Comparable.symm (ha : a.IsTidy) (hb : b.IsTidy) (h : Comparable a b) : Comparable b a :=
  h.imp (equal_symm ha hb) fun horder => isSome_holds?_comm ha hb .less ▸ horder

/-- Equal values are comparable with the same values. -/
theorem Comparable.congr (ha : a.IsTidy) (hb : b.IsTidy) (h : equal a b) :
    Comparable a c ↔ Comparable b c := by
  rw [Comparable, Comparable, (interchangeable_of_equal ha hb h).left c,
    (holds?_congr ha hb h .less c).1]

end Value

namespace FilterSet

variable {vs : List Value} {v : Value}

/-! ### Each value once -/

theorem distinct_concat (vs : List Value) (v : Value) :
    distinct (vs ++ [v])
      = if (distinct vs).any v.equal then distinct vs else distinct vs ++ [v] := by
  rw [distinct, List.foldl_append]
  rfl

theorem mem_of_mem_distinct (h : v ∈ distinct vs) : v ∈ vs := by
  induction vs using List.reverseRecOn with
  | nil => exact h
  | append_singleton vs w ih =>
    rw [distinct_concat] at h
    split at h
    · exact List.mem_append_left _ (ih h)
    · rcases List.mem_append.mp h with h | h
      · exact List.mem_append_left _ (ih h)
      · exact List.mem_append_right _ h

/-- Every value is listed itself, or an equal one is. -/
theorem exists_mem_distinct (h : v ∈ vs) : ∃ s ∈ distinct vs, v = s ∨ v.equal s := by
  induction vs using List.reverseRecOn with
  | nil => cases h
  | append_singleton vs w ih =>
    rw [distinct_concat]
    split
    next hany =>
      rcases List.mem_append.mp h with h | h
      · exact ih h
      · obtain rfl := List.mem_singleton.mp h
        obtain ⟨s, hs, hequal⟩ := List.any_eq_true.mp hany
        exact ⟨s, hs, .inr hequal⟩
    next =>
      rcases List.mem_append.mp h with h | h
      · obtain ⟨s, hs, hsame⟩ := ih h
        exact ⟨s, List.mem_append_left _ hs, hsame⟩
      · exact ⟨v, List.mem_append_right _ h, .inl rfl⟩

/-- No value is listed that is equal to an earlier one. -/
theorem pairwise_distinct (vs : List Value) :
    (distinct vs).Pairwise fun earlier later => later.equal earlier = false := by
  induction vs using List.reverseRecOn with
  | nil => exact .nil
  | append_singleton vs w ih =>
    rw [distinct_concat]
    split
    · exact ih
    next hany =>
      refine List.pairwise_append.mpr ⟨ih, List.pairwise_singleton _ w, fun s hs x hx => ?_⟩
      obtain rfl := List.mem_singleton.mp hx
      exact Bool.eq_false_iff.mpr fun hequal => hany (List.any_eq_true.mpr ⟨s, hs, hequal⟩)

theorem unordered?_eq_none_iff :
    unordered? vs = none ↔ vs.Pairwise fun v w => (Value.holds? .less v w).isSome := by
  induction vs with
  | nil => exact ⟨fun _ => .nil, fun _ => rfl⟩
  | cons v rest ih =>
    rw [unordered?, List.pairwise_cons, ← ih]
    cases hfound : rest.find? fun w => (Value.holds? .less v w).isNone with
    | some w =>
      have hnone := List.find?_some hfound
      refine iff_of_false (by simp) fun h => ?_
      have hsome := h.1 w (List.mem_of_find?_eq_some hfound)
      simp_all
    | none =>
      have hsome : ∀ w ∈ rest, (Value.holds? .less v w).isSome := by
        simpa [Option.isSome_iff_ne_none] using List.find?_eq_none.mp hfound
      exact ⟨fun h => ⟨hsome, h⟩, fun h => h.2⟩

/-! ### Warnings -/

/-- A list in which each value stands once is in an order if and only if the values can be
listed. -/
theorem unordered?_distinct_iff (h : ∀ v ∈ vs, Document.unhashable? v = none) :
    unordered? (distinct vs) = none ↔ ∀ v ∈ vs, ∀ w ∈ vs, Value.Comparable v w := by
  have htidy : ∀ v ∈ vs, v.IsTidy := fun v hv => Value.isTidy_of_unhashable? (h v hv)
  have hlisted : ∀ v ∈ distinct vs, v.IsTidy := fun v hv => htidy v (mem_of_mem_distinct hv)
  rw [unordered?_eq_none_iff]
  constructor
  · intro hpairs
    -- First for the values that are listed, then for those equal to them.
    have hdistinct : ∀ s ∈ distinct vs, ∀ t ∈ distinct vs, Value.Comparable s t := by
      intro s hs t ht
      refine List.Pairwise.forall_of_forall_of_flip (fun s hs => ?_) ?_ ?_ hs ht
      · exact Value.comparable_self (h s (mem_of_mem_distinct hs))
      · exact hpairs.imp .inr
      · exact hpairs.imp_of_mem fun hs ht horder =>
          Value.Comparable.symm (hlisted _ hs) (hlisted _ ht) (.inr horder)
    have hleft : ∀ v ∈ vs, ∀ t ∈ distinct vs, Value.Comparable v t := by
      intro v hv t ht
      obtain ⟨s, hs, rfl | hequal⟩ := exists_mem_distinct hv
      · exact hdistinct _ hs t ht
      · exact (Value.Comparable.congr (htidy v hv) (hlisted s hs) hequal).mpr (hdistinct s hs t ht)
    intro v hv w hw
    obtain ⟨t, ht, rfl | hequal⟩ := exists_mem_distinct hw
    · exact hleft v hv _ ht
    · have hcomparable := (hleft v hv t ht).symm (htidy v hv) (hlisted t ht)
      exact ((Value.Comparable.congr (htidy w hw) (hlisted t ht) hequal).mpr hcomparable).symm
        (htidy w hw) (htidy v hv)
  · intro hall
    refine (pairwise_distinct vs).imp_of_mem fun {s t} hs ht hne => ?_
    have hs := mem_of_mem_distinct hs
    have ht := mem_of_mem_distinct ht
    refine (hall s hs t ht).resolve_left fun hequal => ?_
    rw [Value.equal_symm (htidy s hs) (htidy t ht) hequal] at hne
    cases hne

/-- **When there is a list of warnings**: if and only if the unknown operators can be listed. -/
theorem exists_warnings_iff {f : FilterSet} :
    (∃ lines, f.warnings = .ok lines) ↔ Value.AreListable f.unknownOperators := by
  have hkeys : f.unknownOperators.findSome? Document.unhashable? = none
      ↔ ∀ v ∈ f.unknownOperators, Document.unhashable? v = none := List.findSome?_eq_none_iff
  unfold warnings
  dsimp only
  cases hfound : f.unknownOperators.findSome? Document.unhashable? with
  | some kind =>
    refine iff_of_false (fun ⟨_, h⟩ => by cases h) fun h => ?_
    cases hfound.symm.trans (hkeys.mpr h.hashable)
  | none =>
    have hhashable := hkeys.mp hfound
    have horder := unordered?_distinct_iff hhashable
    cases hpair : unordered? (distinct f.unknownOperators) with
    | some pair =>
      refine iff_of_false (fun ⟨_, h⟩ => by cases h) fun h => ?_
      cases hpair.symm.trans (horder.mpr h.comparable)
    | none => exact iff_of_true ⟨_, rfl⟩ ⟨hhashable, horder.mp hpair⟩

end FilterSet

end DocView
