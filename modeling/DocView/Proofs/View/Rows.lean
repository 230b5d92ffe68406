import DocView.Proofs.Document.Rows
import DocView.Proofs.Page
import DocView.Proofs.Result
import DocView.View
import Mathlib.Data.List.FinRange

/-!
# Views do not see how documents are wrapped

A listing that wraps some of its documents in rows is filtered, sorted and paged like the listing of
the documents. What comes out are rows in the one case and documents in the other, so the two runs
cannot be compared item by item; what they have in common are the positions. So every stage is first
written as one that works on positions: it reads the documents at the positions that it is given and
answers with those that are left, in their new order. A stage on a listing is then the stage on
positions, followed by looking up what the listing has there.

The positions are found by reading bodies, and rows have the bodies of their documents. Sorting needs
one more remark. Rows are sorted together with what was read from them, and the comparison looks
at what was read and never at the row, so merge sort commutes with looking the rows up.

## Main definitions

* `FilterSet.positions`, `Sorting.positions`, `View.positions` - the stages on positions
* `RowBlind` - what the wrapping has no part in

## Main results

* `FilterSet.select_map`, `Sorting.documents_map`, `View.run_map` - stages on listings are stages on
  positions
* `rowBlind_of_isBare`
-/

namespace DocView

variable {ι : Type} {d g : ι → Value}

/-- Listings over the same positions have the same bodies if the documents at every position
have. -/
theorem sameBodies_map (h : ∀ i, Document.body (g i) = Document.body (d i)) (is : List ι) :
    SameBodies (is.map g) (is.map d) :=
  List.forall₂_map_left_iff.mpr <| List.forall₂_map_right_iff.mpr <|
    List.forall₂_same.mpr fun i _ => h i

/-! ### Filtering -/

theorem Condition.accepts_congr {a b : Value} (h : Document.body a = Document.body b)
    (c : Condition) : c.accepts a = c.accepts b := by
  rw [accepts, accepts, Document.field_congr h]

namespace FilterSet

variable {a b : Value}

theorem passesAll_body_congr (h : Document.body a = Document.body b) (cs : List Condition) :
    passesAll a cs = passesAll b cs := by
  induction cs with
  | nil => rfl
  | cons c rest ih => rw [passesAll, passesAll, c.accepts_congr h, ih]

theorem passesAny_body_congr (h : Document.body a = Document.body b) (cs : List Condition) :
    passesAny a cs = passesAny b cs := by
  induction cs with
  | nil => rfl
  | cons c rest ih => rw [passesAny, passesAny, c.accepts_congr h, ih]

theorem passes_body_congr (h : Document.body a = Document.body b) (f : FilterSet) :
    f.passes a = f.passes b := by
  rw [passes, passes, passesAll_body_congr h, passesAny_body_congr h]

/-- The positions of the documents that pass. -/
def positions (f : FilterSet) (d : ι → Value) : List ι → Result (List ι)
  | [] => .ok []
  | i :: rest => do
    let kept ← f.passes (d i)
    let others ← f.positions d rest
    .ok (if kept then i :: others else others)

theorem select_map (h : ∀ i, Document.body (g i) = Document.body (d i)) (f : FilterSet)
    (is : List ι) : f.select (is.map g) = (f.positions d is).map (List.map g) := by
  induction is with
  | nil => rfl
  | cons i rest ih =>
    rw [List.map_cons, select, positions, ih, passes_body_congr (h i)]
    rcases f.passes (d i) with e | (_ | _)
    all_goals rcases f.positions d rest with e' | js <;> rfl

theorem sublist_of_positions {f : FilterSet} {is js : List ι} (h : f.positions d is = .ok js) :
    js.Sublist is := by
  induction is generalizing js with
  | nil => exact (Except.ok.inj h) ▸ List.Sublist.refl _
  | cons i rest ih =>
    obtain ⟨kept, -, hrest⟩ := bind_eq_ok.mp h
    obtain ⟨others, hothers, hjs⟩ := bind_eq_ok.mp hrest
    obtain rfl := Except.ok.inj hjs
    cases kept with
    | false => exact (ih hothers).cons i
    | true => exact (ih hothers).cons_cons i

/-- The positions that `FilterSet.apply` leaves, and its warnings. -/
def matching (f : FilterSet) (d : ι → Value) (is : List ι) : Result (List ι × List String) :=
  if f.conditions.isEmpty then .ok (is, [])
  else do
    let lines ← f.warnings
    .ok (← f.positions d is, lines)

theorem apply_map (h : ∀ i, Document.body (g i) = Document.body (d i)) (f : FilterSet)
    (form : Form) (is : List ι) :
    f.apply (.list form (is.map g)) = (f.matching d is).map fun m => (m.1.map g, m.2) := by
  show (if f.conditions.isEmpty then .ok (is.map g, [])
    else do let lines ← f.warnings; .ok (← f.select (is.map g), lines) : Result _) = _
  rw [matching, select_map h]
  split
  next => rfl
  next =>
    rcases f.warnings with e | lines
    · rfl
    · rcases f.positions d is with e | js <;> rfl

theorem sublist_of_matching {f : FilterSet} {is js : List ι} {lines : List String}
    (h : f.matching d is = .ok (js, lines)) : js.Sublist is := by
  unfold matching at h
  split at h
  next =>
    obtain ⟨rfl, -⟩ := Prod.mk.inj (Except.ok.inj h)
    exact List.Sublist.refl _
  next =>
    obtain ⟨_, -, hrest⟩ := bind_eq_ok.mp h
    obtain ⟨kept, hkept, hpair⟩ := bind_eq_ok.mp hrest
    obtain ⟨rfl, -⟩ := Prod.mk.inj (Except.ok.inj hpair)
    exact sublist_of_positions hkept

end FilterSet

/-! ### Sorting -/

namespace Sorting

/-- What the keys read at a position, and the position. -/
def reading (keys : List SortKey) (d : ι → Value) (i : ι) : Result (List Value × ι) := do
  let values ← keys.mapM fun key => Document.field (d i) key.field
  .ok (values, i)

/-- The positions of documents in the order of the keys. -/
def positions (keys : List SortKey) (d : ι → Value) (is : List ι) : Result (List ι) :=
  let active := keys.filter SortKey.isActive
  if active.isEmpty then .ok is
  else do
    let readings ← is.mapM (reading active d)
    .ok ((readings.mergeSort fun a b => (compareFields active a.1 b.1).isLE).map Prod.snd)

/-- The row at the position of a reading. -/
def rowAt (g : ι → Value) (r : List Value × ι) : Row := ⟨r.1, g r.2⟩

theorem mapM_row_map (h : ∀ i, Document.body (g i) = Document.body (d i)) (keys : List SortKey)
    (is : List ι) :
    (is.map g).mapM (row keys) = (is.mapM (reading keys d)).map (List.map (rowAt g)) := by
  have hrow : ∀ i, row keys (g i) = (reading keys d i).map (rowAt g) := by
    intro i
    simp only [row, reading, Document.field_congr (h i)]
    generalize keys.mapM (fun key => Document.field (d i) key.field) = values
    cases values <;> rfl
  induction is with
  | nil => rfl
  | cons i rest ih =>
    rw [List.map_cons, List.mapM_cons, List.mapM_cons, ih, hrow]
    rcases reading keys d i with e | r
    · rfl
    · rcases rest.mapM (reading keys d) with e | rs <;> rfl

theorem documents_map (h : ∀ i, Document.body (g i) = Document.body (d i)) (keys : List SortKey)
    (is : List ι) : documents (is.map g) keys = (positions keys d is).map (List.map g) := by
  unfold documents positions
  generalize keys.filter SortKey.isActive = active
  show (if active.isEmpty then _ else _) = Except.map _ (if active.isEmpty then _ else _)
  split
  next => rfl
  next =>
    rw [mapM_row_map h]
    rcases is.mapM (reading active d) with e | readings
    · rfl
    · have hsort : (readings.map (rowAt g)).mergeSort (inOrder active)
          = (readings.mergeSort fun a b => (compareFields active a.1 b.1).isLE).map (rowAt g) :=
        (List.map_mergeSort (f := rowAt g) fun _ _ _ _ => rfl).symm
      show Except.ok (((readings.map (rowAt g)).mergeSort (inOrder active)).map Row.document)
        = Except.ok (List.map g _)
      rw [hsort, List.map_map, List.map_map]
      rfl

theorem map_snd_of_mapM_reading {keys : List SortKey} {is : List ι}
    {readings : List (List Value × ι)} (h : is.mapM (reading keys d) = .ok readings) :
    readings.map Prod.snd = is := by
  rw [mapM_eq_ok_iff] at h
  induction h with
  | nil => rfl
  | cons hreading _ ih =>
    obtain ⟨values, -, hpair⟩ := bind_eq_ok.mp hreading
    obtain rfl := Except.ok.inj hpair
    rw [List.map_cons, ih]

theorem perm_of_positions {keys : List SortKey} {is js : List ι}
    (h : positions keys d is = .ok js) : js.Perm is := by
  unfold positions at h
  generalize keys.filter SortKey.isActive = active at h
  change (if active.isEmpty then _ else _) = _ at h
  split at h
  next => exact (Except.ok.inj h) ▸ List.Perm.refl _
  next =>
    obtain ⟨readings, hreadings, hjs⟩ := bind_eq_ok.mp h
    rw [← Except.ok.inj hjs, ← map_snd_of_mapM_reading hreadings]
    exact (List.mergeSort_perm _ _).map Prod.snd

end Sorting

/-! ### Paging -/

theorem Page.slice_map {α β : Type} (g : α → β) (items : List α) (page size : Nat) :
    slice (items.map g) page size = (slice items page size).map g := by
  simp only [slice, List.length_map, List.map_take, List.map_drop]

theorem Page.ofList_map {α β : Type} (g : α → β) (items : List α) (page size : Value) :
    ofList (items.map g) page size = (ofList items page size).map (List.map g) := by
  unfold ofList
  rcases numbers page size with e | ⟨p, n⟩
  · rfl
  · exact congrArg Except.ok (slice_map g items p n)

/-! ### Runs -/

namespace View

variable {settings : Settings} {view : View}

/-- The positions on the page of a view, and the outcome for the documents. -/
def positions (settings : Settings) (view : View) (d : ι → Value) (is : List ι) :
    Result (List ι × Outcome) := do
  let size := view.pageSize.orElse settings.pagination.itemsPerPage
  let filters ← FilterSet.ofConditions view.conditions view.logic
  let (kept, warnings) ← filters.matching d is
  let keys ← view.keys settings (is.map d)
  let ordered ← Sorting.positions keys d kept
  let shown ← Page.ofList ordered view.page size
  let page ← Page.infoOf (.int ordered.length) view.page size
  let fields ← Fields.user (.array (is.map d)) settings.engine.internalPrefix
    settings.engine.fieldSample
  .ok (shown, {
    items := shown.map d
    fields := fields
    page := page
    scanned := is.length
    matched := kept.length
    total := ordered.length
    warnings := warnings })

theorem keys_congr {docs docs' : List Value} (h : SameBodies docs docs') :
    view.keys settings docs = view.keys settings docs' := by
  simp only [keys, SortKey.resolveAll_congr h]

/-- **A run over a listing is a run over positions.** Only the items are looked up in the
listing. -/
theorem run_map (h : ∀ i, Document.body (g i) = Document.body (d i)) (form : Form)
    (is : List ι) :
    view.run settings (.list form (is.map g))
      = (view.positions settings d is).map fun p => { p.2 with items := p.1.map g } := by
  have hbodies := sameBodies_map h is
  simp only [run, positions, passing, Argument.documents, bind, Except.bind,
    FilterSet.apply_map h, keys_congr hbodies, Fields.user_congr hbodies]
  rcases FilterSet.ofConditions view.conditions view.logic with e | filters
  · rfl
  dsimp only
  rcases filters.matching d is with e | ⟨kept, warnings⟩
  · rfl
  dsimp only [Except.map]
  rcases keys settings view (is.map d) with e | keys
  · rfl
  dsimp only
  rw [Sorting.documents_map h]
  rcases Sorting.positions keys d kept with e | ordered
  · rfl
  simp only [Except.map, Page.ofList_map, List.length_map]
  rcases Page.ofList ordered view.page
    (view.pageSize.orElse settings.pagination.itemsPerPage) with e | shown
  · rfl
  rcases Page.infoOf (.int ordered.length) view.page
    (view.pageSize.orElse settings.pagination.itemsPerPage) with e | page
  · rfl
  rcases Fields.user (.array (is.map d)) settings.engine.internalPrefix
    settings.engine.fieldSample with e | fields <;> rfl

theorem nodup_of_positions {is shown : List ι} {o : Outcome}
    (h : view.positions settings d is = .ok (shown, o)) (his : is.Nodup) : shown.Nodup := by
  obtain ⟨filters, -, h₁⟩ := bind_eq_ok.mp h
  obtain ⟨⟨kept, warnings⟩, hkept, h₂⟩ := bind_eq_ok.mp h₁
  obtain ⟨keys, -, h₃⟩ := bind_eq_ok.mp h₂
  obtain ⟨ordered, hordered, h₄⟩ := bind_eq_ok.mp h₃
  obtain ⟨items, hitems, h₅⟩ := bind_eq_ok.mp h₄
  obtain ⟨page, -, h₆⟩ := bind_eq_ok.mp h₅
  obtain ⟨fields, -, hpair⟩ := bind_eq_ok.mp h₆
  obtain ⟨⟨p, n⟩, -, hslice⟩ := bind_eq_ok.mp hitems
  obtain ⟨rfl, -⟩ := Prod.mk.inj (Except.ok.inj hpair)
  rw [← Except.ok.inj hslice]
  have hkept : kept.Nodup := his.sublist (FilterSet.sublist_of_matching hkept)
  exact ((Sorting.perm_of_positions hordered).nodup_iff.mpr hkept).sublist
    (Page.slice_sublist ordered p n)

end View

/-! ### Listings of documents -/

variable {n : ℕ}

/-- A listing of documents: every row is its document or carries it. -/
def Lists (docs rows : Fin n → Value) : Prop := ∀ i, Document.Shows (docs i) (rows i)

/-- What the wrapping of a listing has no part in. Where rows come out, they are the rows at
positions that depend on the documents alone; where something is found out about a listing, it is
what is found out about the documents. Failures are the same, too. -/
structure RowBlind (docs : Fin n → Value) : Prop where
  /-- A view shows the rows at the same positions, and says the same about them. -/
  run : ∀ (settings : Settings) (view : View) (form : Form), ∃ shown : List (Fin n),
    shown.Nodup ∧ ∀ rows, Lists docs rows →
      view.run settings (.list form (List.ofFn rows))
        = (view.run settings (.list form (List.ofFn docs))).map fun o =>
            { o with items := shown.map rows }
  /-- A filter set keeps the rows at the same positions, with the same warnings. -/
  apply : ∀ (filters : FilterSet) (form : Form), ∃ kept : List (Fin n),
    kept.Pairwise (· < ·) ∧ ∀ rows, Lists docs rows →
      filters.apply (.list form (List.ofFn rows))
        = (filters.apply (.list form (List.ofFn docs))).map fun m => (kept.map rows, m.2)
  /-- Sorting puts the rows in the same order. -/
  sort : ∀ keys : List SortKey, ∃ ordered : List (Fin n),
    ordered.Perm (List.finRange n) ∧ ∀ rows, Lists docs rows →
      Sorting.documents (List.ofFn rows) keys
        = (Sorting.documents (List.ofFn docs) keys).map fun _ => ordered.map rows
  /-- The fields are the same. -/
  fields : ∀ (form : Form) (window : Value) (rows), Lists docs rows →
    Fields.all (.list form (List.ofFn rows)) window
      = Fields.all (.list form (List.ofFn docs)) window
  /-- So are those of the user. -/
  userFields : ∀ (form : Form) (start window : Value) (rows), Lists docs rows →
    Fields.user (.list form (List.ofFn rows)) start window
      = Fields.user (.list form (List.ofFn docs)) start window
  /-- The types of fields are the same. -/
  types : ∀ (fields : List Value) (window : Value) (rows), Lists docs rows →
    Inference.ofFields (List.ofFn rows) fields window
      = Inference.ofFields (List.ofFn docs) fields window
  /-- Sort keys get the same types. -/
  keys : ∀ (window : Value) (keys : List Value) (rows), Lists docs rows →
    SortKey.resolveAll (List.ofFn rows) window keys
      = SortKey.resolveAll (List.ofFn docs) window keys

section Listing

variable {docs rows : Fin n → Value}

theorem Lists.body_eq (hdocs : ∀ i, Document.isBare (docs i)) (h : Lists docs rows) (i : Fin n) :
    Document.body (rows i) = Document.body (docs i) :=
  Document.body_eq_of_shows (hdocs i) (h i)

theorem Lists.sameBodies (hdocs : ∀ i, Document.isBare (docs i)) (h : Lists docs rows) :
    SameBodies (List.ofFn rows) (List.ofFn docs) := by
  rw [List.ofFn_eq_map, List.ofFn_eq_map]
  exact sameBodies_map (h.body_eq hdocs) _

/-- A run that reads the documents and then looks its positions up in the listing answers with the
rows at positions that do not depend on the listing. -/
theorem exists_positions {α σ : Type} (run : (Fin n → Value) → Result α)
    (stage : Result (List (Fin n) × σ)) (look : List Value → σ → α) (set : α → List Value → α)
    {P : List (Fin n) → Prop}
    (hrun : ∀ rows, Lists docs rows → run rows = stage.map fun p => look (p.1.map rows) p.2)
    (hset : ∀ items items' s, set (look items s) items' = look items' s)
    (hP : ∀ js s, stage = .ok (js, s) → P js) (hany : ∃ js, P js) :
    ∃ js, P js ∧ ∀ rows, Lists docs rows →
      run rows = (run docs).map fun a => set a (js.map rows) := by
  have hself : Lists docs docs := fun _ => .bare
  cases hstage : stage with
  | error e =>
    obtain ⟨js, hjs⟩ := hany
    refine ⟨js, hjs, fun rows h => ?_⟩
    rw [hrun rows h, hrun docs hself, hstage]
    rfl
  | ok p =>
    refine ⟨p.1, hP p.1 p.2 hstage, fun rows h => ?_⟩
    rw [hrun rows h, hrun docs hself, hstage]
    exact congrArg Except.ok (hset _ _ _).symm

theorem exists_shown (hdocs : ∀ i, Document.isBare (docs i)) (settings : Settings) (view : View)
    (form : Form) : ∃ shown : List (Fin n), shown.Nodup ∧ ∀ rows, Lists docs rows →
      view.run settings (.list form (List.ofFn rows))
        = (view.run settings (.list form (List.ofFn docs))).map fun o =>
            { o with items := shown.map rows } := by
  refine exists_positions (fun rows => view.run settings (.list form (List.ofFn rows)))
    (view.positions settings docs (List.finRange n)) (fun items o => { o with items := items })
    (fun o items => { o with items := items }) (fun rows h => ?_) (fun _ _ _ => rfl)
    (fun js o h => View.nodup_of_positions h (List.nodup_finRange n)) ⟨[], List.nodup_nil⟩
  rw [List.ofFn_eq_map]
  exact View.run_map (h.body_eq hdocs) form _

theorem exists_kept (hdocs : ∀ i, Document.isBare (docs i)) (filters : FilterSet) (form : Form) :
    ∃ kept : List (Fin n), kept.Pairwise (· < ·) ∧ ∀ rows, Lists docs rows →
      filters.apply (.list form (List.ofFn rows))
        = (filters.apply (.list form (List.ofFn docs))).map fun m => (kept.map rows, m.2) := by
  refine exists_positions (fun rows => filters.apply (.list form (List.ofFn rows)))
    (filters.matching docs (List.finRange n)) Prod.mk (fun m items => (items, m.2))
    (fun rows h => ?_) (fun _ _ _ => rfl) (fun js lines h => ?_) ⟨[], List.Pairwise.nil⟩
  · rw [List.ofFn_eq_map]
    exact FilterSet.apply_map (h.body_eq hdocs) filters form _
  · exact (List.pairwise_lt_finRange n).sublist (FilterSet.sublist_of_matching h)

theorem exists_ordered (hdocs : ∀ i, Document.isBare (docs i)) (keys : List SortKey) :
    ∃ ordered : List (Fin n), ordered.Perm (List.finRange n) ∧ ∀ rows, Lists docs rows →
      Sorting.documents (List.ofFn rows) keys
        = (Sorting.documents (List.ofFn docs) keys).map fun _ => ordered.map rows := by
  refine exists_positions (fun rows => Sorting.documents (List.ofFn rows) keys)
    ((Sorting.positions keys docs (List.finRange n)).map fun js => (js, ()))
    (fun items _ => items) (fun _ items => items) (fun rows h => ?_) (fun _ _ _ => rfl)
    (fun js _ h => ?_) ⟨_, List.Perm.refl _⟩
  · rw [List.ofFn_eq_map, Sorting.documents_map (h.body_eq hdocs)]
    cases Sorting.positions keys docs (List.finRange n) <;> rfl
  · cases hpositions : Sorting.positions keys docs (List.finRange n) with
    | error e =>
      rw [hpositions] at h
      contradiction
    | ok ordered =>
      rw [hpositions] at h
      obtain ⟨rfl, -⟩ := Prod.mk.inj (Except.ok.inj h)
      exact Sorting.perm_of_positions hpositions

end Listing

/-- **How documents are wrapped makes no difference.** The documents have to be bare, and nothing is
asked of the rows besides: any of the documents may be wrapped, and a row may have any other members,
also such as a document has. -/
theorem rowBlind_of_isBare {docs : Fin n → Value} (hdocs : ∀ i, Document.isBare (docs i)) :
    RowBlind docs where
  run := exists_shown hdocs
  apply := exists_kept hdocs
  sort := exists_ordered hdocs
  fields form window _ h := Fields.all_congr (h.sameBodies hdocs) form window
  userFields form start window _ h := Fields.user_congr (h.sameBodies hdocs) form start window
  types fields window _ h := Inference.ofFields_congr (h.sameBodies hdocs) fields window
  keys window keys _ h := SortKey.resolveAll_congr (h.sameBodies hdocs) window keys

/-- Three documents, one with a text under `doc`. -/
def fruit : Fin 3 → Value
  | 0 => .record [("name", .str "fig"), ("doc", .str "dried")]
  | 1 => .record [("name", .str "date")]
  | 2 => .record [("name", .str "fig")]

/-- A listing of them in which two are wrapped. One of the rows has a name, too. -/
def fruitRows : Fin 3 → Value
  | 0 => .record [("name", .str "fig"), ("doc", .str "dried")]
  | 1 => .record [("id", .int 7), ("name", .str "fig"), ("doc", .record [("name", .str "date")])]
  | 2 => .object .frozen [("doc", .record [("name", .str "fig")])]

/-- The figs of the listing: the name of the row in between is not looked at. -/
theorem rowBlind_fruit :
    let figs : FilterSet := ⟨[⟨.str "name", .str "equals", .str "fig", .string⟩], .and⟩
    (∀ i, Document.isBare (fruit i)) ∧ RowBlind fruit ∧ Lists fruit fruitRows ∧
      figs.select (List.ofFn fruit) = .ok [fruit 0, fruit 2] ∧
      figs.select (List.ofFn fruitRows) = .ok [fruitRows 0, fruitRows 2] := by
  intro figs
  have hbare : ∀ i, Document.isBare (fruit i) := by decide
  have hlists : Lists fruit fruitRows := by
    intro i
    match i with
    | 0 => exact .bare
    | 1 => exact .wrapped .plain _ rfl
    | 2 => exact .wrapped .frozen _ rfl
  exact ⟨hbare, rowBlind_of_isBare hbare, hlists, rfl, rfl⟩

end DocView
