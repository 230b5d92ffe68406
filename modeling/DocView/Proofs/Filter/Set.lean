import DocView.Filter.Set
import DocView.Proofs.Result
import Mathlib.Data.List.Forall2

/-!
# Filter sets up to likeness

A filter set sees no more of a condition than the documents it accepts and, to warn, whether its
operator is known. Two conditions that agree in both are *alike*, and a set may have any of its
conditions replaced by one that is alike. In the other direction, a set of a single condition shows
on a single document what that condition says.

## Main definitions

* `Condition.Alike`

## Main results

* `FilterSet.apply_congr_of_accepts`, `FilterSet.apply_congr`
* `FilterSet.accepts_eq_of_apply_singleton`
-/

namespace DocView

/-- Conditions with known operators that accept the same documents, and fail on the same ones. -/
structure Condition.Alike (c c' : Condition) : Prop where
  /-- The operator of the first is known. -/
  known : c.isKnown
  /-- The operator of the second is known. -/
  known' : c'.isKnown
  /-- Both answer the same for every document. -/
  accepts : ∀ document, c.accepts document = c'.accepts document

/-- A condition that constrains nothing accepts everything. -/
theorem Condition.accepts_of_isVacuous {c : Condition} (hc : c.isVacuous) (document : Value) :
    c.accepts document = .ok true := by
  rw [accepts, if_pos hc]

namespace FilterSet

variable {conditions conditions' : List Condition} {c c' : Condition}

/-! ### Conditions that are replaced -/

theorem passesAll_congr
    (h : List.Forall₂ (fun c c' => ∀ document, c.accepts document = c'.accepts document)
      conditions conditions') (document : Value) :
    passesAll document conditions = passesAll document conditions' := by
  induction h with
  | nil => rfl
  | cons hc _ ih => rw [passesAll, passesAll, hc, ih]

theorem passesAny_congr
    (h : List.Forall₂ (fun c c' => ∀ document, c.accepts document = c'.accepts document)
      conditions conditions') (document : Value) :
    passesAny document conditions = passesAny document conditions' := by
  induction h with
  | nil => rfl
  | cons hc _ ih => rw [passesAny, passesAny, hc, ih]

theorem select_congr {f g : FilterSet} (h : ∀ document, f.passes document = g.passes document)
    (documents : List Value) : f.select documents = g.select documents := by
  induction documents with
  | nil => rfl
  | cons document rest ih => rw [select, select, h, ih]

theorem isEmpty_congr {R : Condition → Condition → Prop}
    (h : List.Forall₂ R conditions conditions') : conditions.isEmpty = conditions'.isEmpty := by
  cases h <;> rfl

/-- **Conditions may be replaced by ones that accept the same documents** as long as the operators
that are not known stay. -/
theorem apply_congr_of_accepts {logic : Logic}
    (h : List.Forall₂ (fun c c' => ∀ document, c.accepts document = c'.accepts document)
      conditions conditions')
    (hunknown : unknownOperators ⟨conditions, logic⟩ = unknownOperators ⟨conditions', logic⟩)
    (documents : Value) :
    apply ⟨conditions, logic⟩ documents = apply ⟨conditions', logic⟩ documents := by
  have hpasses : ∀ document,
      passes ⟨conditions, logic⟩ document = passes ⟨conditions', logic⟩ document := by
    intro document
    rw [passes, passes, isEmpty_congr h, passesAll_congr h, passesAny_congr h]
  have hselect : select ⟨conditions, logic⟩ = select ⟨conditions', logic⟩ :=
    funext (select_congr hpasses)
  unfold apply warnings
  rw [isEmpty_congr h, hunknown, hselect]

/-! ### Conditions that are alike -/

theorem isKnown_of_alike (h : List.Forall₂ Condition.Alike conditions conditions') :
    (∀ c ∈ conditions, c.isKnown) ∧ ∀ c ∈ conditions', c.isKnown := by
  induction h with
  | nil => simp
  | cons hc _ ih =>
    exact ⟨List.forall_mem_cons.mpr ⟨hc.known, ih.1⟩, List.forall_mem_cons.mpr ⟨hc.known', ih.2⟩⟩

theorem unknownOperators_eq_nil {logic : Logic} (h : ∀ c ∈ conditions, c.isKnown) :
    unknownOperators ⟨conditions, logic⟩ = [] := by
  rw [unknownOperators, List.map_eq_nil_iff, List.filter_eq_nil_iff]
  intro c hc
  simp [h c hc]

/-- There is nothing to warn about if every operator is known. -/
theorem warnings_eq_nil {logic : Logic} (h : ∀ c ∈ conditions, c.isKnown) :
    warnings ⟨conditions, logic⟩ = .ok [] := by
  rw [warnings, unknownOperators_eq_nil h]
  simp [distinct, unordered?]

/-- **Conditions may be replaced by ones that are alike**: all collections give the same documents,
the same warnings and the same failures. -/
theorem apply_congr (h : List.Forall₂ Condition.Alike conditions conditions') (logic : Logic)
    (documents : Value) :
    apply ⟨conditions, logic⟩ documents = apply ⟨conditions', logic⟩ documents := by
  obtain ⟨hknown, hknown'⟩ := isKnown_of_alike h
  exact apply_congr_of_accepts (h.imp fun _ _ hc => hc.accepts)
    ((unknownOperators_eq_nil hknown).trans (unknownOperators_eq_nil hknown').symm) documents

/-! ### One condition and one document -/

theorem passes_singleton (c : Condition) (logic : Logic) (document : Value) :
    passes ⟨[c], logic⟩ document = c.accepts document := by
  rw [passes]
  cases logic
  all_goals simp only [passesAll, passesAny, List.isEmpty_cons, Bool.false_eq_true, if_false]
  all_goals rcases c.accepts document with e | (_ | _) <;> rfl

/-- A single condition keeps a single document if it accepts it. -/
theorem apply_singleton (hknown : c.isKnown) (logic : Logic) (document : Value) :
    (apply ⟨[c], logic⟩ (.array [document])).map Prod.fst
      = (c.accepts document).map fun kept => if kept then [document] else [] := by
  have hwarnings : warnings ⟨[c], logic⟩ = .ok [] :=
    warnings_eq_nil fun c' hc => (List.mem_singleton.mp hc) ▸ hknown
  -- The list of conditions is not empty and the collection is a list.
  show (do
    let lines ← warnings ⟨[c], logic⟩
    .ok (← select ⟨[c], logic⟩ [document], lines) : Result _).map Prod.fst = _
  rw [hwarnings, select, passes_singleton]
  cases c.accepts document <;> rfl

/-- A set of a single condition answers for a single document if the condition does. -/
theorem exists_apply_singleton {document : Value} {kept : Bool} (hknown : c.isKnown) (logic : Logic)
    (haccepts : c.accepts document = .ok kept) : ∃ lines,
      apply ⟨[c], logic⟩ (.array [document]) = .ok (if kept then [document] else [], lines) := by
  have happly := apply_singleton hknown logic document
  rw [haccepts] at happly
  obtain ⟨⟨_, lines⟩, happly, rfl⟩ := map_eq_ok.mp happly
  exact ⟨lines, happly⟩

/-- Whether a document was kept says whether it was accepted. -/
theorem kept_injective (document : Value) :
    Function.Injective fun kept : Bool => if kept then [document] else [] := by
  intro a b h
  cases a <;> cases b <;> first | rfl | contradiction

/-- **What a single condition says shows on a single document.** -/
theorem accepts_eq_of_apply_singleton {logic : Logic} {document : Value} (hc : c.isKnown)
    (hc' : c'.isKnown)
    (h : (apply ⟨[c], logic⟩ (.array [document])).map Prod.fst
      = (apply ⟨[c'], logic⟩ (.array [document])).map Prod.fst) :
    c.accepts document = c'.accepts document := by
  rw [apply_singleton hc, apply_singleton hc'] at h
  cases hfirst : c.accepts document with
  | error e =>
    cases hsecond : c'.accepts document with
    | error e' =>
      rw [hfirst, hsecond] at h
      exact congrArg Except.error (Except.error.inj h)
    | ok b =>
      rw [hfirst, hsecond] at h
      contradiction
  | ok a =>
    cases hsecond : c'.accepts document with
    | error e' =>
      rw [hfirst, hsecond] at h
      contradiction
    | ok b =>
      rw [hfirst, hsecond] at h
      exact congrArg Except.ok (kept_injective document (Except.ok.inj h))

end FilterSet

end DocView
