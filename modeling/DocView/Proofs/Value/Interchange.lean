import DocView.Proofs.Value.Order
import DocView.Proofs.Value.Standing
import Mathlib.Data.List.Forall2
import Mathlib.Data.List.Perm.Subperm

/-!
# Equal values

Equal values need not be the same: a truth value is equal to a number, a plain object to a frozen
one, and members may come in another order. But nothing that equality or order can ask tells them
apart. So equality is symmetric and transitive, and that two values have an order does not depend on
which of several equal values are asked.

It needs objects that have each name once. An association list in which a name comes twice reads
as its first entry and still counts both, so it may be equal to an object that is not equal to it.

## Main definitions

* `Value.IsTidy` - no name comes twice, at any depth
* `Value.Interchangeable` - equality does not tell two values apart

## Main results

* `Value.interchangeable_of_equal`
* `Value.equal_symm`, `Value.equal_trans`
* `Value.holds?_congr` - nor does order
* `Value.isSome_holds?_comm` - having an order is symmetric
-/

namespace DocView.Value

/-- No object in a value has a name twice, at any depth. -/
inductive IsTidy : Value → Prop
  | list {form : Form} {items : List Value} (tidy : ∀ v ∈ items, IsTidy v) :
    IsTidy (.list form items)
  | object {form : Form} {members : Members} (distinct : (Members.names members).Nodup)
    (tidy : ∀ entry ∈ members, IsTidy entry.2) : IsTidy (.object form members)
  | scalar {v : Value} (h : v.isContainer = false) : IsTidy v

/-- Equality does not tell two values apart, on either side. -/
structure Interchangeable (a b : Value) : Prop where
  left : ∀ c, equal a c = equal b c
  right : ∀ c, equal c a = equal c b

variable {a b c : Value} {xs ys : List Value} {ms ns : Members} {r : Relation} {form : Form}

theorem IsTidy.of_mem (h : IsTidy (.list form xs)) : ∀ v ∈ xs, v.IsTidy := by
  cases h with
  | list tidy => exact tidy
  | scalar h => cases h

theorem IsTidy.of_mem_members (h : IsTidy (.object form ms)) :
    (Members.names ms).Nodup ∧ ∀ entry ∈ ms, entry.2.IsTidy := by
  cases h with
  | object distinct tidy => exact ⟨distinct, tidy⟩
  | scalar h => cases h

/-! ### Scalars -/

/-- Numbers are equal if they are at the same place. -/
theorem equal_of_place? {p : Option Binary64.Place} (ha : a.place? = some p) (b : Value) :
    equal a b = samePlace a b ∧ equal b a = samePlace b a := by
  cases a with
  | bool | int | float => cases b <;> exact ⟨by simp only [equal], by simp only [equal]⟩
  | _ => cases ha

theorem samePlace_iff :
    samePlace a b ↔ ∃ p, a.place? = some (some p) ∧ b.place? = some (some p) := by
  unfold samePlace
  rcases a.place? with _ | _ | p <;> rcases b.place? with _ | _ | q
  case some.some.some.some =>
    refine beq_iff_eq.trans ⟨fun h => ⟨p, rfl, congrArg _ (congrArg _ h.symm)⟩, ?_⟩
    rintro ⟨r, hp, hq⟩
    cases hp
    cases hq
    rfl
  all_goals simp

theorem samePlace_congr (h : a.place? = b.place?) (c : Value) :
    samePlace a c = samePlace b c ∧ samePlace c a = samePlace c b := by
  simp only [samePlace, h, and_self]

/-- A number that is equal to a value has its place. -/
theorem place?_of_equal {p : Option Binary64.Place} (ha : a.place? = some p) (h : equal a b) :
    ∃ q, a.place? = some (some q) ∧ b.place? = some (some q) :=
  samePlace_iff.mp ((equal_of_place? ha b).1 ▸ h)

theorem Moment.same_congr {m n : Moment} (h : m.same n) (k : Moment) :
    m.same k = n.same k ∧ k.same m = k.same n ∧
      m.keys? k = n.keys? k ∧ k.keys? m = k.keys? n := by
  unfold Moment.same at h
  split at h
  next x y hkeys =>
    unfold Moment.keys? at hkeys
    split at hkeys
    next hlocal =>
      obtain ⟨rfl, rfl⟩ := Prod.mk.inj (Option.some.inj hkeys)
      have hinstant : m.instant = n.instant := beq_iff_eq.mp h
      have hleft : m.keys? k = n.keys? k := by rw [Moment.keys?, Moment.keys?, hlocal, hinstant]
      have hright : k.keys? m = k.keys? n := by rw [Moment.keys?, Moment.keys?, hlocal, hinstant]
      exact ⟨by rw [Moment.same, Moment.same, hleft], by rw [Moment.same, Moment.same, hright],
        hleft, hright⟩
    next => cases hkeys
  next => cases h

/-- Where equality is neither of places nor of instants, it is identity. -/
theorem eq_of_equal (ha : a.isContainer = false) (hplace : a.place? = none)
    (hmoment : ∀ m, a ≠ .moment m) (h : equal a b) : a = b := by
  cases a with
  | null | unset => cases b <;> first | rfl | simp [equal, samePlace, place?] at h
  | str s =>
    cases b with
    | str t => simpa [equal] using h
    | _ => simp [equal, samePlace, place?] at h
  | bytes s =>
    cases b with
    | bytes t => simpa [equal] using h
    | _ => simp [equal, samePlace, place?] at h
  | date d =>
    cases b with
    | date e => simpa [equal] using h
    | _ => simp [equal, samePlace, place?] at h
  | moment m => exact absurd rfl (hmoment m)
  | bool | int | float => cases hplace
  | list | object => cases ha

/-- What equality and order say of a scalar they say of every value that is equal to it. -/
theorem scalar_congr (ha : a.isContainer = false) (h : equal a b) :
    Interchangeable a b ∧ ∀ r c, holds? r a c = holds? r b c ∧ holds? r c a = holds? r c b := by
  cases hplace : a.place? with
  | some p =>
    obtain ⟨q, hq, hb⟩ := place?_of_equal hplace h
    have hsame := samePlace_congr (hq.trans hb.symm)
    refine ⟨⟨fun c => ?_, fun c => ?_⟩, fun r c => ?_⟩
    · rw [(equal_of_place? hq c).1, (equal_of_place? hb c).1, (hsame c).1]
    · rw [(equal_of_place? hq c).2, (equal_of_place? hb c).2, (hsame c).2]
    · cases hc : c.place? with
      | none =>
        have hleft : ∀ {v : Value}, v.place? = some (some q) → holds? r v c = none := fun hv =>
          holds?_of_no_place (by simp [hv, hc]) r
        have hright : ∀ {v : Value}, v.place? = some (some q) → holds? r c v = none := fun hv =>
          holds?_of_no_place (by simp [hv, hc]) r
        rw [hleft hq, hleft hb, hright hq, hright hb]
        exact ⟨rfl, rfl⟩
      | some place =>
        cases place with
        | none =>
          rw [adrift_of_place? hq hc (.inr rfl) r, adrift_of_place? hb hc (.inr rfl) r,
            adrift_of_place? hc hq (.inl rfl) r, adrift_of_place? hc hb (.inl rfl) r]
          exact ⟨rfl, rfl⟩
        | some place =>
          rw [holds?_of_places hq hc, holds?_of_places hb hc, holds?_of_places hc hq,
            holds?_of_places hc hb]
          exact ⟨rfl, rfl⟩
  | none =>
    by_cases hmoment : ∃ m, a = .moment m
    · obtain ⟨m, rfl⟩ := hmoment
      cases b with
      | moment n =>
        have hsame := Moment.same_congr (m := m) (n := n) (by simpa [equal] using h)
        refine ⟨⟨fun c => ?_, fun c => ?_⟩, fun r c => ?_⟩
        all_goals cases c <;> simp [equal, holds?, samePlace, place?, hsame]
      | _ => simp [equal, samePlace, place?] at h
    · obtain rfl := eq_of_equal ha hplace (fun m hm => hmoment ⟨m, hm⟩) h
      exact ⟨⟨fun _ => rfl, fun _ => rfl⟩, fun _ _ => ⟨rfl, rfl⟩⟩

/-! ### Lists and objects -/

theorem equalItems_iff : equalItems xs ys ↔ List.Forall₂ (fun x y => equal x y) xs ys := by
  induction xs generalizing ys with
  | nil => cases ys <;> simp [equalItems]
  | cons x xs ih =>
    cases ys with
    | nil => simp [equalItems]
    | cons y ys => rw [equalItems, Bool.and_eq_true, ih, List.forall₂_cons]

theorem forall₂_of_forall_mem {R S : Value → Value → Prop}
    (himp : ∀ x ∈ xs, ∀ y ∈ ys, R x y → S x y) (h : List.Forall₂ R xs ys) : List.Forall₂ S xs ys := by
  induction h with
  | nil => exact .nil
  | cons hxy _ ih =>
    refine .cons (himp _ List.mem_cons_self _ List.mem_cons_self hxy) (ih fun x hx y hy => ?_)
    exact himp x (List.mem_cons_of_mem _ hx) y (List.mem_cons_of_mem _ hy)

/-- Lists whose items are interchangeable are equal to the same lists. -/
theorem equalItems_congr (h : List.Forall₂ Interchangeable xs ys) (zs : List Value) :
    equalItems xs zs = equalItems ys zs ∧ equalItems zs xs = equalItems zs ys := by
  induction h generalizing zs with
  | nil => exact ⟨rfl, rfl⟩
  | cons hxy _ ih =>
    cases zs with
    | nil => exact ⟨rfl, rfl⟩
    | cons z zs => simp only [equalItems, hxy.left, hxy.right, ih, and_self]

/-- Members with distinct names that all have their equals among others, of which there are no
more, have all of their names. -/
theorem names_perm (hms : (Members.names ms).Nodup) (hlength : ms.length = ns.length)
    (h : ∀ entry ∈ ms, ∃ y, Members.get? ns entry.1 = some y) :
    (Members.names ms).Perm (Members.names ns) := by
  have hsubset : Members.names ms ⊆ Members.names ns := by
    intro name hname
    obtain ⟨entry, hentry, rfl⟩ := List.mem_map.mp hname
    obtain ⟨y, hy⟩ := h entry hentry
    exact Members.mem_names_of_mem (Members.mem_of_get? hy)
  refine (hms.subperm hsubset).perm_of_length_le ?_
  simp [Members.names, hlength]

/-- Objects whose members are interchangeable, name by name, are equal to the same objects. -/
theorem object_congr (hms : (Members.names ms).Nodup) (hns : (Members.names ns).Nodup)
    (hlength : ms.length = ns.length)
    (h : ∀ entry ∈ ms, ∃ y, Members.get? ns entry.1 = some y ∧ Interchangeable entry.2 y)
    (os : Members) :
    (equalMembers ms os ↔ equalMembers ns os) ∧ (equalMembers os ms ↔ equalMembers os ns) := by
  have hperm := names_perm hms hlength fun entry hentry => (h entry hentry).imp fun _ hy => hy.1
  -- Every member of the one has its counterpart in the other, whichever is the one.
  have hforth : ∀ {name x}, Members.get? ms name = some x →
      ∃ y, Members.get? ns name = some y ∧ Interchangeable x y :=
    fun hx => h _ (Members.mem_of_get? hx)
  have hback : ∀ {name y}, Members.get? ns name = some y →
      ∃ x, Members.get? ms name = some x ∧ Interchangeable x y := by
    intro name y hy
    have hname : name ∈ Members.names ms :=
      hperm.mem_iff.mpr (Members.mem_names_of_mem (Members.mem_of_get? hy))
    obtain ⟨⟨_, x⟩, hentry, rfl⟩ := List.mem_map.mp hname
    have hx := Members.get?_eq_some_of_mem hms hentry
    obtain ⟨y', hy', hxy⟩ := hforth hx
    exact ⟨x, hx, Option.some.inj (hy'.symm.trans hy) ▸ hxy⟩
  simp only [equalMembers_iff]
  refine ⟨⟨fun hall entry hentry => ?_, fun hall entry hentry => ?_⟩,
    ⟨fun hall entry hentry => ?_, fun hall entry hentry => ?_⟩⟩
  · obtain ⟨x, hx, hxy⟩ := hback (Members.get?_eq_some_of_mem hns hentry)
    obtain ⟨z, hz, hequal⟩ := hall (entry.1, x) (Members.mem_of_get? hx)
    exact ⟨z, hz, (hxy.left z).symm.trans hequal⟩
  · obtain ⟨y, hy, hxy⟩ := h entry hentry
    obtain ⟨z, hz, hequal⟩ := hall (entry.1, y) (Members.mem_of_get? hy)
    exact ⟨z, hz, (hxy.left z).trans hequal⟩
  · obtain ⟨x, hx, hequal⟩ := hall entry hentry
    obtain ⟨y, hy, hxy⟩ := hforth hx
    exact ⟨y, hy, (hxy.right entry.2).symm.trans hequal⟩
  · obtain ⟨y, hy, hequal⟩ := hall entry hentry
    obtain ⟨x, hx, hxy⟩ := hback hy
    exact ⟨x, hx, (hxy.right entry.2).trans hequal⟩

/-! ### Equal values -/

/-- **Equality does not tell equal values apart.** -/
theorem interchangeable_of_equal (ha : a.IsTidy) (hb : b.IsTidy) (h : equal a b) :
    Interchangeable a b := by
  induction a using containerInduction generalizing b with
  | list form xs ih =>
    cases b with
    | list form' ys =>
      rw [equal, Bool.and_eq_true, beq_iff_eq, equalItems_iff] at h
      obtain ⟨rfl, hitems⟩ := h
      have hcongr : List.Forall₂ Interchangeable xs ys := forall₂_of_forall_mem
        (fun x hx y hy => ih x hx (ha.of_mem x hx) (hb.of_mem y hy)) hitems
      refine ⟨fun c => ?_, fun c => ?_⟩
      · cases c <;> simp [equal, samePlace, place?, equalItems_congr hcongr]
      · cases c <;> simp [equal, samePlace, place?, equalItems_congr hcongr]
    | _ => simp [equal, samePlace, place?] at h
  | object form ms ih =>
    cases b with
    | object form' ns =>
      rw [equal, Bool.and_eq_true, beq_iff_eq, equalMembers_iff] at h
      obtain ⟨hlength, hmembers⟩ := h
      obtain ⟨hms, htidy⟩ := ha.of_mem_members
      obtain ⟨hns, htidy'⟩ := hb.of_mem_members
      have hcongr := object_congr hms hns hlength fun entry hentry => by
        obtain ⟨y, hy, hequal⟩ := hmembers entry hentry
        exact ⟨y, hy, ih entry hentry (htidy entry hentry)
          (htidy' _ (Members.mem_of_get? hy)) hequal⟩
      have hleft : ∀ os, equalMembers ms os = equalMembers ns os := fun os =>
        Bool.eq_iff_iff.mpr (hcongr os).1
      have hright : ∀ os, equalMembers os ms = equalMembers os ns := fun os =>
        Bool.eq_iff_iff.mpr (hcongr os).2
      refine ⟨fun c => ?_, fun c => ?_⟩
      · cases c <;> simp [equal, samePlace, place?, hlength, hleft]
      · cases c <;> simp [equal, samePlace, place?, hlength, hright]
    | _ => simp [equal, samePlace, place?] at h
  | scalar a hscalar => exact (scalar_congr hscalar h).1

theorem equal_symm (ha : a.IsTidy) (hb : b.IsTidy) (h : equal a b) : equal b a := by
  have hsame := interchangeable_of_equal ha hb h
  -- Whatever is equal to something is equal to itself.
  rw [← hsame.left a, hsame.right a, h]

theorem equal_comm (ha : a.IsTidy) (hb : b.IsTidy) : equal a b = equal b a :=
  Bool.eq_iff_iff.mpr ⟨equal_symm ha hb, equal_symm hb ha⟩

theorem equal_trans (ha : a.IsTidy) (hb : b.IsTidy) (hab : equal a b) (hbc : equal b c) :
    equal a c :=
  (interchangeable_of_equal ha hb hab).left c ▸ hbc

/-! ### Order -/

/-- Lists are ordered alike if their items are. -/
theorem itemsHold?_congr (h : List.Forall₂ (fun x y => Interchangeable x y ∧
      ∀ c, holds? r x c = holds? r y c ∧ holds? r c x = holds? r c y) xs ys) (zs : List Value) :
    itemsHold? r xs zs = itemsHold? r ys zs ∧ itemsHold? r zs xs = itemsHold? r zs ys := by
  induction h generalizing zs with
  | nil => exact ⟨rfl, rfl⟩
  | cons hxy _ ih =>
    cases zs with
    | nil => exact ⟨rfl, rfl⟩
    | cons z zs => simp only [itemsHold?, hxy.1.left, hxy.1.right, hxy.2 z, ih zs, and_self]

/-- **Nor does order.** -/
theorem holds?_congr (ha : a.IsTidy) (hb : b.IsTidy) (h : equal a b) (r : Relation) (c : Value) :
    holds? r a c = holds? r b c ∧ holds? r c a = holds? r c b := by
  induction a using containerInduction generalizing b c with
  | list form xs ih =>
    cases b with
    | list form' ys =>
      rw [equal, Bool.and_eq_true, beq_iff_eq, equalItems_iff] at h
      obtain ⟨rfl, hitems⟩ := h
      have hcongr := itemsHold?_congr (r := r) <| forall₂_of_forall_mem (fun x hx y hy hxy =>
        ⟨interchangeable_of_equal (ha.of_mem x hx) (hb.of_mem y hy) hxy,
          ih x hx (ha.of_mem x hx) (hb.of_mem y hy) hxy⟩) hitems
      cases c <;> simp [holds?, place?, hcongr]
    | _ => simp [equal, samePlace, place?] at h
  | object form ms =>
    cases b with
    | object form' ns => cases c <;> simp [holds?, place?]
    | _ => simp [equal, samePlace, place?] at h
  | scalar a hscalar => exact (scalar_congr hscalar h).2 r c

/-- A number has an order with the numbers, on either side. -/
theorem isSome_holds?_of_place? {p : Option Binary64.Place} (ha : a.place? = some p)
    (r : Relation) (b : Value) :
    (holds? r a b).isSome = b.place?.isSome ∧ (holds? r b a).isSome = b.place?.isSome := by
  cases hb : b.place? with
  | none =>
    rw [holds?_of_no_place (by simp [ha, hb]), holds?_of_no_place (by simp [ha, hb])]
    exact ⟨rfl, rfl⟩
  | some q =>
    by_cases hnan : p = none ∨ q = none
    · rw [adrift_of_place? ha hb hnan r, adrift_of_place? hb ha hnan.symm r]
      exact ⟨rfl, rfl⟩
    · obtain ⟨p, rfl⟩ := Option.ne_none_iff_exists'.mp fun hp => hnan (.inl hp)
      obtain ⟨q, rfl⟩ := Option.ne_none_iff_exists'.mp fun hq => hnan (.inr hq)
      rw [holds?_of_places ha hb, holds?_of_places hb ha]
      exact ⟨rfl, rfl⟩

theorem isSome_keys?_comm (m n : Moment) : (m.keys? n).isSome = (n.keys? m).isSome := by
  unfold Moment.keys?
  by_cases hlocal : m.isLocal = n.isLocal
  · simp [hlocal]
  · simp [hlocal, Ne.symm hlocal]

theorem isSome_holds?_comm_scalar (ha : a.isContainer = false) (r : Relation) (b : Value) :
    (holds? r a b).isSome = (holds? r b a).isSome := by
  cases hplace : a.place? with
  | some p =>
    obtain ⟨hleft, hright⟩ := isSome_holds?_of_place? hplace r b
    rw [hleft, hright]
  | none =>
    cases a with
    | bool | int | float => cases hplace
    | list | object => cases ha
    | moment m =>
      cases b with
      | moment n => simpa [holds?] using isSome_keys?_comm m n
      | _ => simp [holds?, place?]
    | _ => cases b <;> simp [holds?, place?]

/-- **Having an order is symmetric.** -/
theorem isSome_holds?_comm (ha : a.IsTidy) (hb : b.IsTidy) (r : Relation) :
    (holds? r a b).isSome = (holds? r b a).isSome := by
  induction a using containerInduction generalizing b with
  | list form xs ih =>
    cases b with
    | list form' ys =>
      have hxs := ha.of_mem
      have hys := hb.of_mem
      have hitems : (itemsHold? r xs ys).isSome = (itemsHold? r ys xs).isSome := by
        clear ha hb
        induction xs generalizing ys with
        | nil => cases ys <;> rfl
        | cons x xs ihxs =>
          cases ys with
          | nil => rfl
          | cons y ys =>
            obtain ⟨ihx, ihrest⟩ := List.forall_mem_cons.mp ih
            obtain ⟨hx, hxs⟩ := List.forall_mem_cons.mp hxs
            obtain ⟨hy, hys⟩ := List.forall_mem_cons.mp hys
            rw [itemsHold?, itemsHold?, equal_comm hx hy]
            split
            · exact ihxs ihrest ys hxs hys
            · exact ihx hx hy
      by_cases hform : form = form'
      · simp only [holds?, if_pos hform, if_pos hform.symm, hitems]
      · simp only [holds?, if_neg hform, if_neg (Ne.symm hform)]
    | _ => simp [holds?, place?]
  | object form ms => cases b <;> simp [holds?, place?]
  | scalar a hscalar => exact isSome_holds?_comm_scalar hscalar r b

end DocView.Value
