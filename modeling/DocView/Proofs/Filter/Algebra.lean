import DocView.Proofs.Filter.Answers
import DocView.Proofs.View.Rows

/-!
# The algebra of filter sets

For documents on which no condition fails, a filter set reads its conditions as a set: a conjunction
keeps what all of them keep, a disjunction what some of them keeps. The laws of the two follow, with
the edges that the empty list and the vacuous conditions make. No conditions keep everything under
either logic, so only non-empty lists can be split under `OR`; a vacuous condition is true, and not
absent, so it is lost in a conjunction and decides a disjunction.

What is kept is one half of a run, and the warnings are the other. They depend on the unknown
operators only, and if these cannot be listed, nothing is selected although no condition fails on any
document. So a law that puts two lists of conditions together holds if and only if operators
that can be listed apart can be listed together.

## Main definitions

* `FilterSet.selected?` - the documents that are selected, if the run answers
* `FilterSet.selectedPositions?`, `FilterSet.KeepsAt` - what is selected, by positions
* `FilterSet.Listable` - conditions whose unknown operators can be listed

## Main results

* `FilterSet.selected?_eq_some_iff`, `FilterSet.keepsAt_iff` - what a run selects
* `FilterSet.selected_laws` - the laws, each with the condition under which it holds
-/

namespace DocView

namespace FilterSet

variable {f : FilterSet} {conditions c₁ c₂ : List Condition} {c : Condition}
  {documents : List Value} {logic : Logic}

/-- The documents that a filter set selects, if it answers. -/
def selected? (f : FilterSet) (documents : List Value) : Option (List Value) :=
  ((f.apply (.array documents)).map Prod.fst).toOption

/-- The positions of the documents that a filter set selects, if it answers. -/
def selectedPositions? (f : FilterSet) (documents : List Value) :
    Option (List (Fin documents.length)) :=
  ((f.matching documents.get (List.finRange documents.length)).map Prod.fst).toOption

/-- The document at a position is selected. -/
def KeepsAt (f : FilterSet) (documents : List Value) (i : Fin documents.length) : Prop :=
  ∃ positions, f.selectedPositions? documents = some positions ∧ i ∈ positions

/-- The unknown operators of conditions can be listed. -/
def Listable (conditions : List Condition) : Prop :=
  Value.AreListable (unknownOperators ⟨conditions, .and⟩)

/-! ### Unknown operators -/

theorem unknownOperators_append (c₁ c₂ : List Condition) (logic : Logic) :
    unknownOperators ⟨c₁ ++ c₂, logic⟩
      = unknownOperators ⟨c₁, logic⟩ ++ unknownOperators ⟨c₂, logic⟩ := by
  rw [unknownOperators, List.filter_append, List.map_append]
  rfl

/-- There are no warnings of vacuous conditions. -/
theorem unknownOperators_cons_of_isVacuous (h : c.isVacuous = true) (conditions : List Condition)
    (logic : Logic) :
    unknownOperators ⟨c :: conditions, logic⟩ = unknownOperators ⟨conditions, logic⟩ := by
  rw [unknownOperators, List.filter_cons_of_neg (by simp [h])]
  rfl

theorem Listable.mono (h : Listable conditions) (hsub : c₁ ⊆ conditions) : Listable c₁ := by
  refine Value.AreListable.mono h fun v hv => ?_
  obtain ⟨c, hc, rfl⟩ := List.mem_map.mp hv
  obtain ⟨hmem, hunknown⟩ := List.mem_filter.mp hc
  exact List.mem_map_of_mem (List.mem_filter.mpr ⟨hsub hmem, hunknown⟩)

theorem listable_insert_of_isVacuous (h : c.isVacuous = true) :
    Listable (c₁ ++ c :: c₂) ↔ Listable (c₁ ++ c₂) := by
  rw [Listable, Listable, unknownOperators_append, unknownOperators_append,
    unknownOperators_cons_of_isVacuous h]

/-- The logic has no part in the warnings. -/
theorem exists_warnings_iff_listable : (∃ lines, f.warnings = .ok lines) ↔ Listable f.conditions :=
  exists_warnings_iff

theorem listable_nil : Listable [] := Value.AreListable.of_isText fun v hv => by cases hv

/-! ### What is selected -/

/-- The positions are those of the documents that are selected. -/
theorem selected?_eq_map (f : FilterSet) (documents : List Value) :
    f.selected? documents = (f.selectedPositions? documents).map (List.map documents.get) := by
  have hmap : f.apply (.array documents)
      = (f.matching documents.get (List.finRange documents.length)).map
          fun m => (m.1.map documents.get, m.2) := by
    have happly := apply_map (fun _ => rfl) f .plain (List.finRange documents.length)
      (d := documents.get) (g := documents.get)
    rwa [List.map_get_finRange] at happly
  rw [selected?, selectedPositions?, hmap]
  cases f.matching documents.get (List.finRange documents.length) <;> rfl

theorem positions_eq_filter {ι : Type} {d : ι → Value} {is : List ι}
    (h : ∀ i ∈ is, ∃ kept, f.passes (d i) = .ok kept) :
    f.positions d is = .ok (is.filter fun i => f.keeps (d i)) := by
  induction is with
  | nil => rfl
  | cons i rest ih =>
    obtain ⟨⟨kept, hkept⟩, hrest⟩ := List.forall_mem_cons.mp h
    have hkeeps : f.keeps (d i) = kept := by rw [keeps, hkept]
    rw [positions, hkept, ih hrest, List.filter_cons, hkeeps]
    rfl

theorem filter_finRange (documents : List Value) (p : Value → Bool) :
    ((List.finRange documents.length).filter fun i => p (documents.get i)).map documents.get
      = documents.filter p := by
  have hmap := List.filter_map (f := documents.get) (p := p) (l := List.finRange documents.length)
  rw [List.map_get_finRange] at hmap
  exact hmap.symm

/-- What is selected is what the conditions keep, unless the unknown operators cannot be listed. -/
theorem selectedPositions?_eq_some_iff (h : f.Answers documents)
    {positions : List (Fin documents.length)} :
    f.selectedPositions? documents = some positions ↔ Listable f.conditions ∧
      ((List.finRange documents.length).filter fun i => f.keeps (documents.get i))
        = positions := by
  rw [selectedPositions?, matching]
  split
  next hempty =>
    have hlist : Listable f.conditions := List.isEmpty_iff.mp hempty ▸ listable_nil
    have hkeeps : ∀ i ∈ List.finRange documents.length, f.keeps (documents.get i) = true :=
      fun i _ => by rw [keeps, passes, if_pos hempty]
    rw [List.filter_eq_self.mpr hkeeps, and_iff_right hlist]
    exact Option.some_inj
  next =>
    rw [positions_eq_filter fun i _ => h _ (List.get_mem _ i), ← exists_warnings_iff_listable]
    cases f.warnings with
    | error e =>
      refine iff_of_false (fun hsame => ?_) fun hboth => ?_
      · cases hsame
      · obtain ⟨⟨_, hlines⟩, -⟩ := hboth
        cases hlines
    | ok lines =>
      constructor
      · intro hsame
        exact ⟨⟨lines, rfl⟩, Option.some.inj hsame⟩
      · intro hboth
        exact congrArg some hboth.2

theorem selected?_eq_some_iff (h : f.Answers documents) {kept : List Value} :
    f.selected? documents = some kept
      ↔ Listable f.conditions ∧ documents.filter f.keeps = kept := by
  rw [selected?_eq_map, Option.map_eq_some_iff, ← filter_finRange documents f.keeps]
  constructor
  · rintro ⟨positions, hpositions, rfl⟩
    obtain ⟨hlist, rfl⟩ := (selectedPositions?_eq_some_iff h).mp hpositions
    exact ⟨hlist, rfl⟩
  · rintro ⟨hlist, rfl⟩
    exact ⟨_, (selectedPositions?_eq_some_iff h).mpr ⟨hlist, rfl⟩, rfl⟩

theorem keepsAt_iff (h : f.Answers documents) {i : Fin documents.length} :
    f.KeepsAt documents i ↔ Listable f.conditions ∧ f.keeps (documents.get i) = true := by
  simp [KeepsAt, selectedPositions?_eq_some_iff h]

/-! ### Conditions as a set -/

section Keeps

variable {document : Value}

theorem keeps_and (h : ∀ c ∈ conditions, ∃ kept, c.accepts document = .ok kept) :
    keeps ⟨conditions, .and⟩ document = conditions.all (·.keeps document) := by
  rw [keeps, passes_and h]

theorem keeps_or (h : ∀ c ∈ conditions, ∃ kept, c.accepts document = .ok kept) :
    keeps ⟨conditions, .or⟩ document
      = (conditions.isEmpty || conditions.any (·.keeps document)) := by
  rw [keeps, passes_or h]

theorem keeps_perm (hperm : conditions.Perm c₁)
    (h : ∀ c ∈ c₁, ∃ kept, c.accepts document = .ok kept) (logic : Logic) :
    keeps ⟨conditions, logic⟩ document = keeps ⟨c₁, logic⟩ document := by
  have h' : ∀ c ∈ conditions, ∃ kept, c.accepts document = .ok kept :=
    fun c hc => h c (hperm.subset hc)
  cases logic with
  | and => rw [keeps_and h, keeps_and h', hperm.all_eq]
  | or => rw [keeps_or h, keeps_or h', hperm.any_eq, hperm.isEmpty_eq]

end Keeps

/-! ### The laws -/

section Laws

variable {i : Fin documents.length}

/-- A conjunction selects in two steps what it selects in one. -/
theorem selected?_append_and
    (h : ∀ c ∈ c₁ ++ c₂, ∀ d ∈ documents, ∃ kept, c.accepts d = .ok kept) :
    selected? ⟨c₁ ++ c₂, .and⟩ documents
        = (selected? ⟨c₁, .and⟩ documents).bind (selected? ⟨c₂, .and⟩)
      ↔ (Listable c₁ → Listable c₂ → Listable (c₁ ++ c₂)) := by
  obtain ⟨h₁, h₂⟩ := List.forall_mem_append.mp h
  have hfirst := answers_of_conditions h₁ .and
  have hsecond : Answers ⟨c₂, .and⟩ (documents.filter (keeps ⟨c₁, .and⟩)) :=
    answers_of_conditions (fun c hc d hd => h₂ c hc d (List.mem_filter.mp hd).1) .and
  have hfilter : (documents.filter (keeps ⟨c₁, .and⟩)).filter (keeps ⟨c₂, .and⟩)
      = documents.filter (keeps ⟨c₁ ++ c₂, .and⟩) := by
    rw [List.filter_filter]
    refine List.filter_congr fun d hd => ?_
    rw [keeps_and fun c hc => h c hc d hd, keeps_and fun c hc => h₁ c hc d hd,
      keeps_and fun c hc => h₂ c hc d hd, List.all_append, Bool.and_comm]
  have hsteps : ∀ kept, (selected? ⟨c₁, .and⟩ documents).bind (selected? ⟨c₂, .and⟩) = some kept
      ↔ (Listable c₁ ∧ Listable c₂) ∧ documents.filter (keeps ⟨c₁ ++ c₂, .and⟩) = kept := by
    intro kept
    rw [Option.bind_eq_some_iff, ← hfilter]
    constructor
    · rintro ⟨kept₁, hkept₁, hkept⟩
      obtain ⟨hlist₁, rfl⟩ := (selected?_eq_some_iff hfirst).mp hkept₁
      obtain ⟨hlist₂, rfl⟩ := (selected?_eq_some_iff hsecond).mp hkept
      exact ⟨⟨hlist₁, hlist₂⟩, rfl⟩
    · rintro ⟨⟨hlist₁, hlist₂⟩, hkept⟩
      exact ⟨_, (selected?_eq_some_iff hfirst).mpr ⟨hlist₁, rfl⟩,
        (selected?_eq_some_iff hsecond).mpr ⟨hlist₂, hkept⟩⟩
  rw [Option.ext_iff]
  simp only [selected?_eq_some_iff (answers_of_conditions h .and), hsteps]
  constructor
  · intro hsame hlist₁ hlist₂
    exact ((hsame _).mpr ⟨⟨hlist₁, hlist₂⟩, rfl⟩).1
  · intro hlist kept
    refine and_congr_left fun _ => ⟨fun hboth => ?_, fun ⟨hlist₁, hlist₂⟩ => hlist hlist₁ hlist₂⟩
    exact ⟨hboth.mono (List.subset_append_left c₁ c₂), hboth.mono (List.subset_append_right c₁ c₂)⟩

/-- A disjunction of two lists, none of them empty, keeps what one of them keeps. -/
theorem keepsAt_append_or (hne₁ : c₁ ≠ []) (hne₂ : c₂ ≠ [])
    (h : ∀ c ∈ c₁ ++ c₂, ∀ d ∈ documents, ∃ kept, c.accepts d = .ok kept) :
    (∀ i, KeepsAt ⟨c₁ ++ c₂, .or⟩ documents i
        ↔ KeepsAt ⟨c₁, .or⟩ documents i ∨ KeepsAt ⟨c₂, .or⟩ documents i)
      ↔ Listable (c₁ ++ c₂) ∨
        ∀ i, ¬ KeepsAt ⟨c₁, .or⟩ documents i ∧ ¬ KeepsAt ⟨c₂, .or⟩ documents i := by
  obtain ⟨h₁, h₂⟩ := List.forall_mem_append.mp h
  have hboth : ∀ i, KeepsAt ⟨c₁ ++ c₂, .or⟩ documents i
      ↔ Listable (c₁ ++ c₂) ∧ keeps ⟨c₁ ++ c₂, .or⟩ (documents.get i) = true :=
    fun _ => keepsAt_iff (answers_of_conditions h .or)
  by_cases hlist : Listable (c₁ ++ c₂)
  · have hlist₁ : Listable c₁ := hlist.mono (List.subset_append_left c₁ c₂)
    have hlist₂ : Listable c₂ := hlist.mono (List.subset_append_right c₁ c₂)
    refine iff_of_true (fun i => ?_) (.inl hlist)
    have hd : documents.get i ∈ documents := List.get_mem documents i
    rw [hboth, keepsAt_iff (answers_of_conditions h₁ .or),
      keepsAt_iff (answers_of_conditions h₂ .or), keeps_or fun c hc => h c hc _ hd,
      keeps_or fun c hc => h₁ c hc _ hd, keeps_or fun c hc => h₂ c hc _ hd]
    simp [hlist, hlist₁, hlist₂, hne₁, hne₂]
  · simp [hboth, hlist]

/-- The order of the conditions has no part in what is selected. -/
theorem selected?_perm (hperm : conditions.Perm c₁)
    (h : ∀ c ∈ c₁, ∀ d ∈ documents, ∃ kept, c.accepts d = .ok kept) (logic : Logic) :
    selected? ⟨conditions, logic⟩ documents = selected? ⟨c₁, logic⟩ documents := by
  have hlist : Listable conditions ↔ Listable c₁ :=
    ⟨fun hlist => hlist.mono hperm.symm.subset, fun hlist => hlist.mono hperm.subset⟩
  have hfilter : documents.filter (keeps ⟨conditions, logic⟩)
      = documents.filter (keeps ⟨c₁, logic⟩) :=
    List.filter_congr fun d hd => keeps_perm hperm (fun c hc => h c hc d hd) logic
  refine Option.ext fun kept => ?_
  rw [selected?_eq_some_iff
    (answers_of_conditions (fun c hc => h c (hperm.subset hc)) logic), hfilter, hlist,
    selected?_eq_some_iff (answers_of_conditions h logic)]

theorem keepsAt_or_of_and
    (h : ∀ c ∈ conditions, ∀ d ∈ documents, ∃ kept, c.accepts d = .ok kept)
    (hand : KeepsAt ⟨conditions, .and⟩ documents i) : KeepsAt ⟨conditions, .or⟩ documents i := by
  have hd : ∀ c ∈ conditions, ∃ kept, c.accepts (documents.get i) = .ok kept :=
    fun c hc => h c hc _ (List.get_mem documents i)
  obtain ⟨hlist, hkeeps⟩ := (keepsAt_iff (answers_of_conditions h .and)).mp hand
  refine (keepsAt_iff (answers_of_conditions h .or)).mpr ⟨hlist, ?_⟩
  rw [keeps_and hd] at hkeeps
  rw [keeps_or hd]
  cases conditions with
  | nil => rfl
  | cons c rest =>
    have hc : c.keeps (documents.get i) = true := (Bool.and_eq_true_iff.mp hkeeps).1
    rw [List.any_cons, hc]
    rfl

/-! ### Vacuous conditions -/

theorem forall_insert_of_isVacuous (hvacuous : c.isVacuous = true)
    (h : ∀ c ∈ c₁ ++ c₂, ∀ d ∈ documents, ∃ kept, c.accepts d = .ok kept) :
    ∀ c' ∈ c₁ ++ c :: c₂, ∀ d ∈ documents, ∃ kept, c'.accepts d = .ok kept := by
  obtain ⟨h₁, h₂⟩ := List.forall_mem_append.mp h
  exact List.forall_mem_append.mpr ⟨h₁, List.forall_mem_cons.mpr
    ⟨fun d _ => ⟨true, Condition.accepts_of_isVacuous hvacuous d⟩, h₂⟩⟩

/-- A vacuous condition is lost in a conjunction. -/
theorem selected?_insert_and (hvacuous : c.isVacuous = true)
    (h : ∀ c ∈ c₁ ++ c₂, ∀ d ∈ documents, ∃ kept, c.accepts d = .ok kept) :
    selected? ⟨c₁ ++ c :: c₂, .and⟩ documents = selected? ⟨c₁ ++ c₂, .and⟩ documents := by
  have hinsert := forall_insert_of_isVacuous hvacuous h
  have hfilter : documents.filter (keeps ⟨c₁ ++ c :: c₂, .and⟩)
      = documents.filter (keeps ⟨c₁ ++ c₂, .and⟩) := by
    refine List.filter_congr fun d hd => ?_
    rw [keeps_and fun c hc => hinsert c hc d hd, keeps_and fun c hc => h c hc d hd,
      List.all_append, List.all_append, List.all_cons, Condition.keeps_of_isVacuous hvacuous,
      Bool.true_and]
  refine Option.ext fun kept => ?_
  rw [selected?_eq_some_iff (answers_of_conditions hinsert .and), hfilter,
    listable_insert_of_isVacuous hvacuous, selected?_eq_some_iff (answers_of_conditions h .and)]

/-- A vacuous condition decides a disjunction. -/
theorem selected?_insert_or (hvacuous : c.isVacuous = true)
    (h : ∀ c ∈ c₁ ++ c₂, ∀ d ∈ documents, ∃ kept, c.accepts d = .ok kept) :
    selected? ⟨c₁ ++ c :: c₂, .or⟩ documents = some documents ↔ Listable (c₁ ++ c₂) := by
  have hinsert := forall_insert_of_isVacuous hvacuous h
  have hfilter : documents.filter (keeps ⟨c₁ ++ c :: c₂, .or⟩) = documents := by
    refine List.filter_eq_self.mpr fun d hd => ?_
    rw [keeps_or fun c hc => hinsert c hc d hd, List.any_append, List.any_cons,
      Condition.keeps_of_isVacuous hvacuous]
    simp
  rw [selected?_eq_some_iff (answers_of_conditions hinsert .or), hfilter,
    listable_insert_of_isVacuous hvacuous, and_iff_left rfl]

/-! ### Together -/

/-- The run answers if and only if the unknown operators can be listed. -/
theorem exists_selected?_iff (h : f.Answers documents) :
    (∃ kept, f.selected? documents = some kept) ↔ Listable f.conditions := by
  simp [selected?_eq_some_iff h]

/-- **The algebra of filter sets.** Let no condition of two lists fail on any document of a
collection. Then a run with both lists answers if and only if the unknown operators can be listed,
which texts always can. Filtering by both lists under `AND` is filtering by one after the other,
exactly unless the operators can be listed apart and not together. A position is kept by both lists
under `OR` if and only if it is kept by one of them, where neither is empty, exactly if the operators
can be listed or neither list keeps anything. The order of the conditions makes no difference, and a
position that is kept under `AND` is kept under `OR`. A vacuous condition, wherever it stands, makes
no difference under `AND`; under `OR` everything is selected, exactly if the operators of the others
can be listed. The documents selected are those at the positions selected. -/
theorem selected_laws (h : ∀ c ∈ c₁ ++ c₂, ∀ d ∈ documents, ∃ kept, c.accepts d = .ok kept) :
    (∀ logic, (∃ kept, selected? ⟨c₁ ++ c₂, logic⟩ documents = some kept)
      ↔ Listable (c₁ ++ c₂)) ∧
    ((∀ c ∈ c₁ ++ c₂, c.operator.isText) → Listable (c₁ ++ c₂)) ∧
    (selected? ⟨c₁ ++ c₂, .and⟩ documents
        = (selected? ⟨c₁, .and⟩ documents).bind (selected? ⟨c₂, .and⟩)
      ↔ (Listable c₁ → Listable c₂ → Listable (c₁ ++ c₂))) ∧
    (c₁ ≠ [] → c₂ ≠ [] →
      ((∀ i, KeepsAt ⟨c₁ ++ c₂, .or⟩ documents i
          ↔ KeepsAt ⟨c₁, .or⟩ documents i ∨ KeepsAt ⟨c₂, .or⟩ documents i)
        ↔ Listable (c₁ ++ c₂) ∨
          ∀ i, ¬ KeepsAt ⟨c₁, .or⟩ documents i ∧ ¬ KeepsAt ⟨c₂, .or⟩ documents i)) ∧
    (∀ conditions, conditions.Perm (c₁ ++ c₂) → ∀ logic,
      selected? ⟨conditions, logic⟩ documents = selected? ⟨c₁ ++ c₂, logic⟩ documents) ∧
    (∀ i, KeepsAt ⟨c₁ ++ c₂, .and⟩ documents i → KeepsAt ⟨c₁ ++ c₂, .or⟩ documents i) ∧
    (∀ c, c.isVacuous = true →
      selected? ⟨c₁ ++ c :: c₂, .and⟩ documents = selected? ⟨c₁ ++ c₂, .and⟩ documents ∧
      (selected? ⟨c₁ ++ c :: c₂, .or⟩ documents = some documents ↔ Listable (c₁ ++ c₂))) ∧
    ∀ f : FilterSet, f.selected? documents
      = (f.selectedPositions? documents).map (List.map documents.get) := by
  refine ⟨fun logic => ?_, fun htext => areListable_of_isText htext .and, selected?_append_and h,
    fun hne₁ hne₂ => keepsAt_append_or hne₁ hne₂ h, fun _ hperm => selected?_perm hperm h,
    fun _ => keepsAt_or_of_and h, fun _ hvacuous => ?_, fun f => selected?_eq_map f documents⟩
  · exact exists_selected?_iff (answers_of_conditions h logic)
  · exact ⟨selected?_insert_and hvacuous h, selected?_insert_or hvacuous h⟩

/-- Three conditions on a size and a name, one of them with an operator that is not known. -/
theorem selected_laws_sizes :
    let large : Condition := ⟨.str "size", .str "greaterThan", .int 2, .number⟩
    let odd : Condition := ⟨.str "size", .str "isOdd", .bool true, .number⟩
    let named : Condition := ⟨.str "name", .str "equals", .str "x", .string⟩
    let documents : List Value := [.record [("size", .int 3)], .record [("name", .str "x")],
      .record [("size", .int 5), ("name", .str "x")], .null]
    selected? ⟨[large, odd, named], .and⟩ documents
        = (selected? ⟨[large], .and⟩ documents).bind (selected? ⟨[odd, named], .and⟩) ∧
      selected? ⟨[named, large, odd], .or⟩ documents
        = selected? ⟨[large, odd, named], .or⟩ documents ∧
      selected? ⟨[large, ⟨.str "", .str "equals", .int 1, .number⟩, odd, named], .or⟩ documents
        = some documents := by
  intro large odd named documents
  have htexts : ∀ c ∈ [large] ++ [odd, named], c.field.isText ∧ c.operator.isText ∧
      c.operator? ≠ some .regex := by
    simp only [List.cons_append, List.nil_append, List.forall_mem_cons, large, odd, named]
    refine ⟨⟨rfl, rfl, ?_⟩, ⟨rfl, rfl, ?_⟩, ⟨rfl, rfl, ?_⟩, List.forall_mem_nil _⟩
    all_goals decide +kernel
  have hanswers : ∀ c ∈ [large] ++ [odd, named], ∀ d ∈ documents, ∃ kept, c.accepts d = .ok kept :=
    fun c hc d _ => Condition.exists_accepts (htexts c hc).1 (htexts c hc).2.2 d
  obtain ⟨-, hlistable, hand, -, hperm, -, hvacuous, -⟩ := selected_laws hanswers
  have hlist := hlistable fun c hc => (htexts c hc).2.1
  exact ⟨hand.mpr fun _ _ => hlist, hperm _ (List.perm_append_singleton named [large, odd]).symm .or,
    (hvacuous _ rfl).2.mpr hlist⟩

/-- No conditions fail on the document, but a number and a text have no order. What either list
selects is lost, and a vacuous condition does not bring it back. -/
theorem not_selected_laws_kinds :
    let numbered : Condition := ⟨.str "a", .int 5, .int 1, .string⟩
    let named : Condition := ⟨.str "a", .str "foo", .int 1, .string⟩
    let vacuous : Condition := ⟨.str "", .str "equals", .null, .string⟩
    let documents : List Value := [.record [("a", .int 1)]]
    (∀ c ∈ [numbered] ++ [named], ∀ d ∈ documents, ∃ kept, c.accepts d = .ok kept) ∧
    selected? ⟨[numbered] ++ [named], .and⟩ documents
      ≠ (selected? ⟨[numbered], .and⟩ documents).bind (selected? ⟨[named], .and⟩) ∧
    (∃ i, KeepsAt ⟨[numbered], .or⟩ documents i ∧
      ¬ KeepsAt ⟨[numbered] ++ [named], .or⟩ documents i) ∧
    selected? ⟨[numbered] ++ vacuous :: [named], .or⟩ documents ≠ some documents := by
  intro numbered named vacuous documents
  have hanswers : ∀ c ∈ [numbered] ++ [named], ∀ d ∈ documents, ∃ kept, c.accepts d = .ok kept := by
    have hknown : ∀ c ∈ [numbered] ++ [named], c.field.isText ∧ c.operator? ≠ some .regex := by
      simp only [List.cons_append, List.nil_append, List.forall_mem_cons, numbered, named]
      refine ⟨⟨rfl, ?_⟩, ⟨rfl, ?_⟩, List.forall_mem_nil _⟩
      all_goals decide +kernel
    exact fun c hc d _ => Condition.exists_accepts (hknown c hc).1 (hknown c hc).2 d
  have hnumbered : Listable [numbered] := Value.AreListable.singleton rfl
  have hnamed : Listable [named] := areListable_of_isText (List.forall_mem_singleton.mpr rfl) .and
  have hboth : ¬ Listable ([numbered] ++ [named]) := by
    intro hlist
    have hoperators : unknownOperators ⟨[numbered] ++ [named], .and⟩ = [.int 5, .str "foo"] := by
      rfl
    rw [Listable, hoperators] at hlist
    rcases hlist.comparable (.int 5) (by simp) (.str "foo") (by simp) with hequal | horder
    · cases hequal
    · cases horder
  refine ⟨hanswers, fun hsame => hboth ((selected?_append_and hanswers).mp hsame hnumbered hnamed),
    ⟨⟨0, Nat.one_pos⟩, ?_, fun hkept => ?_⟩,
    fun hsame => hboth ((selected?_insert_or rfl hanswers).mp hsame)⟩
  · refine (keepsAt_iff (answers_of_conditions (fun c hc => hanswers c ?_) .or)).mpr
      ⟨hnumbered, by decide +kernel⟩
    exact List.mem_append_left _ hc
  · exact hboth ((keepsAt_iff (answers_of_conditions hanswers .or)).mp hkept).1

end Laws

end FilterSet

end DocView
