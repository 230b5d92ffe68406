import DocView.Proofs.Store.Ledger

/-!
# What records are made of

The members of a record are what a client has sent, and the few that the store adds are texts.
Nothing that a store does makes another value: an operation that brings values of a kind to records
made of that kind leaves such records behind, as long as texts are of the kind. A kind is left open
as a property. A bound on the nesting of values is one.

## Main definitions

* `Members.All`, `SavedQuery.IsMadeOf`
* `Store.Operation.Brings`

## Main results

* `Store.Proposes.isMadeOf` - values of a kind keep records made of that kind
-/

namespace DocView

variable {P : Value → Prop}

/-! ### Members of a kind -/

/-- All members have a property. -/
def Members.All (P : Value → Prop) (members : Members) : Prop := ∀ entry ∈ members, P entry.2

theorem Value.orElse_of {v default : Value} (hv : P v) (hdefault : P default) :
    P (v.orElse default) := by
  unfold Value.orElse
  split
  · exact hv
  · exact hdefault

namespace Members.All

variable {members lower upper : Members}

/-- A member that is missing reads as the default. -/
theorem member_orElse (h : members.All P) (name : String) {default : Value} (hdefault : P default) :
    P ((Value.member members name).orElse default) := by
  unfold Value.member
  cases hget : get? members name with
  | none => exact hdefault
  | some v => exact Value.orElse_of (h _ (mem_of_get? hget)) hdefault

theorem insert (h : members.All P) {name : String} {v : Value} (hv : P v) :
    (insert members name v).All P := by
  intro entry hentry
  rcases mem_of_mem_insert hentry with hold | rfl
  · exact h entry hold
  · exact hv

theorem overlay (hlower : lower.All P) (hupper : upper.All P) : (overlay lower upper).All P := by
  unfold Members.overlay
  induction upper generalizing lower with
  | nil => exact hlower
  | cons entry rest ih =>
    obtain ⟨hentry, hrest⟩ := List.forall_mem_cons.mp hupper
    exact ih (hlower.insert hentry) hrest

theorem ofEntries (h : members.All P) : (ofEntries members).All P :=
  overlay (List.forall_mem_nil _) h

theorem without (h : members.All P) (excluded : List String) : (without members excluded).All P :=
  fun entry hentry => h entry (List.mem_of_mem_filter hentry)

end Members.All

/-! ### Records of a kind -/

/-- Everything in a record has a property: what was sent, and the moments of the record. -/
structure SavedQuery.IsMadeOf (P : Value → Prop) (q : SavedQuery) : Prop where
  attributes : q.attributes.All P
  createdAt : P q.createdAt
  updatedAt : P q.updatedAt

theorem SavedQuery.isMadeOf_ofMembers {members : Members} (htext : ∀ s, P (.str s))
    (h : members.All P) (supply : Supply) : (ofMembers members supply).1.IsMadeOf P := by
  have hcreated := h.member_orElse "createdAt" (htext supply.now.1)
  exact ⟨h.without reserved, hcreated, h.member_orElse "updatedAt" hcreated⟩

/-- All members of a record have a property that texts have if the record is made of it. -/
theorem SavedQuery.IsMadeOf.toMembers {q : SavedQuery} (h : q.IsMadeOf P)
    (htext : ∀ s, P (.str s)) : q.toMembers.All P := by
  intro entry hentry
  simp only [SavedQuery.toMembers, List.mem_append, List.mem_cons, List.not_mem_nil, or_false]
    at hentry
  rcases hentry with (rfl | hentry) | rfl | rfl
  · exact htext q.id
  · exact h.attributes entry hentry
  · exact h.createdAt
  · exact h.updatedAt

namespace Store

variable {s : State} {op : Operation} {records : List SavedQuery}

/-! ### What is brought -/

/-- Whether data to be imported is made of objects whose members have a property. -/
def HoldsMembers (P : Value → Prop) (data : Value) : Prop :=
  ∀ form items, data = .list form items → ∀ form' members, .object form' members ∈ items →
    Members.All P members

/-- All values that an operation is given have a property. -/
def Operation.Brings (P : Value → Prop) : Operation → Prop
  | .create data | .update _ data => ∀ members, givenMembers data = .ok members → members.All P
  | .importAll data => HoldsMembers P data
  | .delete _ | .reload => True

theorem all_given {form : Form} {members given : Members} (h : members.All P)
    (hgiven : givenMembers (.object form members) = .ok given) : given.All P := by
  obtain rfl := Except.ok.inj ((givenMembers_object form members).symm.trans hgiven)
  exact h.ofEntries.without SavedQuery.reserved

theorem all_of_record {index : Nat} {v : Value} {members : Members}
    (hv : ∀ form given, v = .object form given → Members.All P given)
    (h : Argument.record index v = .ok members) : members.All P := by
  unfold Argument.record at h
  split at h
  next given =>
    have hgiven : Members.All P given := hv _ given rfl
    by_cases hcarries : Argument.carriesId (Value.member given "id") = true
    · simp only [hcarries, if_true] at h
      obtain ⟨-, -, h⟩ := bind_eq_ok.mp h
      exact Except.ok.inj h ▸ hgiven
    · simp only [hcarries] at h
      exact Except.ok.inj h ▸ hgiven
  next => cases h

theorem all_of_recordsFrom {index : Nat} {items : List Value} {given : List Members}
    (hitems : ∀ form members, .object form members ∈ items → Members.All P members)
    (h : Argument.recordsFrom index items = .ok given) : ∀ members ∈ given, members.All P := by
  induction items generalizing index given with
  | nil =>
    obtain rfl := Except.ok.inj h
    exact List.forall_mem_nil _
  | cons v rest ih =>
    obtain ⟨first, hfirst, h⟩ := bind_eq_ok.mp h
    obtain ⟨others, hothers, h⟩ := bind_eq_ok.mp h
    obtain rfl := Except.ok.inj h
    refine List.forall_mem_cons.mpr ⟨all_of_record ?_ hfirst, ih ?_ hothers⟩
    · exact fun form given hv => hitems form given (hv ▸ List.mem_cons_self)
    · exact fun form members hmem => hitems form members (List.mem_cons_of_mem v hmem)

theorem all_of_records {data : Value} {given : List Members} (hdata : HoldsMembers P data)
    (h : Argument.records data = .ok given) : ∀ members ∈ given, members.All P := by
  unfold Argument.records at h
  split at h
  next items => exact all_of_recordsFrom (hdata _ items rfl) h
  next => cases h

/-! ### What is kept -/

theorem isMadeOf_recordsOf (htext : ∀ s, P (.str s)) {given : List Members}
    (h : ∀ members ∈ given, members.All P) (supply : Supply) :
    ∀ q ∈ (recordsOf given supply).1, q.IsMadeOf P := by
  induction given generalizing supply with
  | nil => exact List.forall_mem_nil _
  | cons members rest ih =>
    obtain ⟨hmembers, hrest⟩ := List.forall_mem_cons.mp h
    exact List.forall_mem_cons.mpr ⟨SavedQuery.isMadeOf_ofMembers htext hmembers supply, ih hrest _⟩

theorem isMadeOf_collect (h : ∀ q ∈ records, q.IsMadeOf P) :
    ∀ q ∈ collect records, q.IsMadeOf P := by
  intro q hq
  obtain ⟨front, back, rfl, -⟩ := (collected_collect records).last q hq
  exact h q (by simp)

/-- **Values of a kind keep records made of that kind.** -/
theorem Proposes.isMadeOf (h : Proposes s op records) (htext : ∀ s, P (.str s)) (hop : op.Brings P)
    (hs : ∀ q ∈ s.records, q.IsMadeOf P) : ∀ q ∈ records, q.IsMadeOf P := by
  cases h with
  | create given =>
    refine List.forall_mem_append.mpr ⟨hs, List.forall_mem_singleton.mpr ?_⟩
    exact ⟨hop _ given, htext _, htext _⟩
  | update found given =>
    have hold := hs _ (mem_of_lookUp found)
    intro q hq
    rcases mem_of_mem_put hq with hq | rfl
    · exact hs q hq
    · exact ⟨hold.attributes.overlay (hop _ given), hold.createdAt, htext _⟩
  | delete => exact fun q hq => hs q (List.mem_of_mem_filter hq)
  | importAll checked =>
    exact isMadeOf_collect (isMadeOf_recordsOf htext (all_of_records hop checked) s.supply)

end Store

end DocView
