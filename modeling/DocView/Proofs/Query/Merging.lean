import DocView.Proofs.Result
import DocView.Proofs.Value.Members
import DocView.Query.Builder
import Mathlib.Data.List.DropRight

/-!
# What the rows of a field come to

The selector is built row by row, and whether a row is merged or replaces what is there depends on
what the rows before it have come to. Still there is a closed form, and it looks at the entries of
one field from the end: the clauses behind the last entry that is no clause are merged, and if there
are none, the last entry stands.

This rests on two observations. The step for a row reads and writes the member of its own field
only, so the fields can be followed one at a time (`get?_putEntries`). And merging clauses makes a
clause again, while anything else is no clause and is replaced whatever comes next. So what a field
has come to is a clause exactly as long as its last entry is one, and then it holds what the clauses
since the last other entry have put there (`merged_eq`).

## Main definitions

* `Query.contributions` - the entries of rows, each with the name of its field
* `Query.entriesOf`, `Query.clausesAtEnd`, `Query.merged`
* `Query.LastWriterWins`

## Main results

* `Query.buildSelector_eq` - a selector is built from the entries of rows
* `Query.merged_eq` - the closed form for one field
* `Query.buildSelector_lastWriterWins`
-/

namespace DocView.Query

variable {selector : Members} {rows : List Value} {entries : List (String × Value)}

/-! ### Rows and their entries -/

/-- What a row puts into the selector, and the name of the field; nothing if it is passed over. -/
def Row.contribution (row : Row) : Result (Option (String × Value)) :=
  if row.isBlank then .ok none
  else do
    match ← row.entry? with
    | none => .ok none
    | some entry => .ok (some (← Table.keyText row.field, entry))

/-- What rows put into the selector, in order. -/
def contributions : List Value → Result (List (String × Value))
  | [] => .ok []
  | v :: rest => do
    let found ← (← Row.ofValue v).contribution
    let others ← contributions rest
    .ok (found.toList ++ others)

/-- Objects are read as rows in one way. -/
theorem forall_row_of_exists {P : Row → Prop}
    (h : ∀ v ∈ rows, ∃ row, Row.ofValue v = .ok row ∧ P row) :
    ∀ v ∈ rows, ∀ row, Row.ofValue v = .ok row → P row := by
  intro v hv row hrow
  obtain ⟨row', hrow', hP⟩ := h v hv
  exact Except.ok.inj (hrow'.symm.trans hrow) ▸ hP

/-- The selector after entries were put into it. -/
def putEntries (selector : Members) (entries : List (String × Value)) : Members :=
  entries.foldl (fun selector entry => putEntry selector entry.1 entry.2) selector

theorem Row.entry?_of_contribution {row : Row} {entry : String × Value}
    (h : row.contribution = .ok (some entry)) :
    row.entry? = .ok (some entry.2) ∧ Table.keyText row.field = .ok entry.1 := by
  unfold contribution at h
  split at h
  next => cases Except.ok.inj h
  next =>
    obtain ⟨found, hfound, h⟩ := bind_eq_ok.mp h
    cases found with
    | none => cases Except.ok.inj h
    | some value =>
      obtain ⟨name, hname, h⟩ := bind_eq_ok.mp h
      obtain rfl := Option.some.inj (Except.ok.inj h)
      exact ⟨hfound, hname⟩

/-- A row that is not for equality puts in a clause of its operator. -/
theorem Row.entry?_eq_clause {row : Row} {entry : Value} (hop : row.operator ≠ equality)
    (h : row.entry? = .ok (some entry)) : ∃ argument, entry = row.clause argument := by
  unfold entry? at h
  rw [if_neg hop] at h
  split at h
  next => exact ⟨_, (Option.some.inj (Except.ok.inj h)).symm⟩
  split at h
  next => exact ⟨_, (Option.some.inj (Except.ok.inj h)).symm⟩
  split at h
  next =>
    obtain ⟨numbers, -, h⟩ := bind_eq_ok.mp h
    split at h
    next => exact ⟨_, (Option.some.inj (Except.ok.inj h)).symm⟩
    next => cases Except.ok.inj h
  split at h
  next =>
    obtain ⟨size, -, h⟩ := bind_eq_ok.mp h
    obtain ⟨n, -, hentry⟩ := Option.map_eq_some_iff.mp (Except.ok.inj h)
    exact ⟨_, hentry.symm⟩
  split at h
  next => exact ⟨_, (Option.some.inj (Except.ok.inj h)).symm⟩
  next => exact ⟨_, (Option.some.inj (Except.ok.inj h)).symm⟩

theorem addRow_eq (selector : Members) (row : Row) :
    addRow selector row = row.contribution.map fun found => putEntries selector found.toList := by
  unfold addRow Row.contribution
  split
  next => rfl
  next =>
    rcases row.entry? with e | (_ | entry)
    · rfl
    · rfl
    · simp only [bind, Except.bind]
      rcases Table.keyText row.field with e | name <;> rfl

theorem addRows_eq (selector : Members) (rows : List Value) :
    addRows selector rows = (contributions rows).map (putEntries selector) := by
  induction rows generalizing selector with
  | nil => rfl
  | cons v rest ih =>
    simp only [addRows, contributions, addRow_eq, bind, Except.bind]
    rcases Row.ofValue v with e | row
    · rfl
    dsimp only
    rcases row.contribution with e | found
    · rfl
    simp only [Except.map, ih]
    rcases contributions rest with e | others
    · rfl
    · simp only [putEntries, List.foldl_append]

/-- **A selector is built from the entries of the rows**, and building it fails as finding them
does. -/
theorem buildSelector_eq (rows : List Value) :
    buildSelector rows = (contributions rows).map (putEntries []) := addRows_eq [] rows

/-! ### One field at a time -/

/-- What a field comes to with one more entry. -/
def merge (old : Option Value) (entry : Value) : Value :=
  match old.bind clauseMembers?, clauseMembers? entry with
  | some lower, some upper => .record (Members.overlay lower upper)
  | _, _ => entry

/-- The entries of one field. -/
def entriesOf (field : String) (entries : List (String × Value)) : List Value :=
  (entries.filter fun entry => entry.1 == field).map Prod.snd

theorem putEntry_eq (selector : Members) (field : String) (entry : Value) :
    putEntry selector field entry
      = Members.insert selector field (merge (Members.get? selector field) entry) := by
  unfold putEntry merge
  rcases (Members.get? selector field).bind clauseMembers? with _ | lower
  · rfl
  · rcases clauseMembers? entry with _ | upper <;> rfl

theorem names_putEntries (entries : List (String × Value)) :
    Members.names (putEntries [] entries) = (entries.map Prod.fst).eraseDups := by
  refine Members.names_foldl_eq_eraseDups (fun members entry => ?_) entries
  rw [putEntry_eq, Members.names_insert]

/-- An entry for another field changes nothing, and one for this field changes it by what is there
already. -/
theorem get?_putEntries (selector : Members) (entries : List (String × Value)) (field : String) :
    Members.get? (putEntries selector entries) field
      = (entriesOf field entries).foldl (fun old entry => some (merge old entry))
          (Members.get? selector field) := by
  induction entries generalizing selector with
  | nil => rfl
  | cons entry rest ih =>
    show Members.get? (putEntries (putEntry selector entry.1 entry.2) rest) field = _
    rw [ih, putEntry_eq, Members.get?_insert, entriesOf, entriesOf, List.filter_cons]
    by_cases hfield : field = entry.1
    · subst hfield
      simp
    · have hne : (entry.1 == field) = false := beq_eq_false_iff_ne.mpr fun h => hfield h.symm
      simp [hfield, hne]

/-! ### Clauses -/

theorem clauseMembers?_eq_some_iff {v : Value} {members : Members} :
    clauseMembers? v = some members ↔ v = .record members ∧ members ≠ [] ∧
      ∀ name ∈ Members.names members, Text.startsWith name "$" := by
  unfold clauseMembers?
  constructor
  · intro h
    split at h
    next ms =>
      split at h
      next hclause =>
        obtain rfl := Option.some.inj h
        simpa using hclause
      next => contradiction
    next => contradiction
  · rintro ⟨rfl, hne, hnames⟩
    dsimp only
    rw [if_pos]
    simpa [hne] using hnames

/-- Clauses that are merged make a clause. -/
theorem clauseMembers?_overlay {a b : Value} {lower upper : Members}
    (ha : clauseMembers? a = some lower) (hb : clauseMembers? b = some upper) :
    clauseMembers? (.record (Members.overlay lower upper)) = some (Members.overlay lower upper) := by
  obtain ⟨-, hne, hlower⟩ := clauseMembers?_eq_some_iff.mp ha
  obtain ⟨-, -, hupper⟩ := clauseMembers?_eq_some_iff.mp hb
  refine clauseMembers?_eq_some_iff.mpr ⟨rfl, fun hnil => ?_, fun name hname => ?_⟩
  · obtain ⟨entry, rest, rfl⟩ := List.exists_cons_of_ne_nil hne
    have hmem : entry.1 ∈ Members.names (Members.overlay (entry :: rest) upper) :=
      Members.mem_names_overlay.mpr (.inl List.mem_cons_self)
    rw [hnil] at hmem
    exact absurd hmem List.not_mem_nil
  · rcases Members.mem_names_overlay.mp hname with h | h
    · exact hlower name h
    · exact hupper name h

theorem merge_of_some {old : Option Value} {entry : Value} {lower upper : Members}
    (hold : old.bind clauseMembers? = some lower) (hentry : clauseMembers? entry = some upper) :
    merge old entry = .record (Members.overlay lower upper) := by
  rw [merge, hold, hentry]

/-- What is no clause is replaced. -/
theorem merge_of_old_eq_none {old : Option Value} (hold : old.bind clauseMembers? = none)
    (entry : Value) : merge old entry = entry := by
  rw [merge, hold]

/-- What is no clause replaces. -/
theorem merge_of_entry_eq_none {entry : Value} (hentry : clauseMembers? entry = none)
    (old : Option Value) : merge old entry = entry := by
  rw [merge, hentry]
  rcases old.bind clauseMembers? with _ | lower <;> rfl

/-! ### The entries of one field -/

/-- What a field comes to. -/
def merged (es : List Value) : Option Value :=
  es.foldl (fun old entry => some (merge old entry)) none

/-- The clauses behind the last entry that is no clause. -/
def clausesAtEnd (es : List Value) : List Members :=
  (es.rtakeWhile fun e => (clauseMembers? e).isSome).filterMap clauseMembers?

theorem merged_concat (es : List Value) (e : Value) :
    merged (es ++ [e]) = some (merge (merged es) e) := by
  rw [merged, List.foldl_concat]
  rfl

theorem clausesAtEnd_concat_of_none {e : Value} (es : List Value) (he : clauseMembers? e = none) :
    clausesAtEnd (es ++ [e]) = [] := by
  rw [clausesAtEnd, List.rtakeWhile_concat_neg _ _ _ (by simp [he])]
  rfl

theorem clausesAtEnd_concat_of_some {e : Value} {members : Members} (es : List Value)
    (he : clauseMembers? e = some members) :
    clausesAtEnd (es ++ [e]) = clausesAtEnd es ++ [members] := by
  rw [clausesAtEnd, List.rtakeWhile_concat_pos _ _ _ (by simp [he]), List.filterMap_append]
  simp [clausesAtEnd, he]

/-- Without clauses at the end the last entry stands, and it is no clause. -/
theorem merged_of_clausesAtEnd_eq_nil {es : List Value} (h : clausesAtEnd es = []) :
    merged es = es.getLast? ∧ (merged es).bind clauseMembers? = none := by
  induction es using List.reverseRecOn with
  | nil => exact ⟨rfl, rfl⟩
  | append_singleton es e =>
    cases he : clauseMembers? e with
    | some members =>
      rw [clausesAtEnd_concat_of_some es he] at h
      simp at h
    | none =>
      rw [merged_concat, merge_of_entry_eq_none he, List.getLast?_concat]
      exact ⟨rfl, he⟩

/-- **Clauses at the end are merged, whatever came before them.** -/
theorem merged_of_clausesAtEnd_ne_nil {es : List Value}
    (hnd : ∀ e ∈ es, ∀ members, clauseMembers? e = some members → (Members.names members).Nodup)
    (h : clausesAtEnd es ≠ []) :
    merged es = some (.record (Members.ofEntries (clausesAtEnd es).flatten)) ∧
      (merged es).bind clauseMembers? = some (Members.ofEntries (clausesAtEnd es).flatten) := by
  induction es using List.reverseRecOn with
  | nil => exact absurd rfl h
  | append_singleton es e ih =>
    cases he : clauseMembers? e with
    | none => exact absurd (clausesAtEnd_concat_of_none es he) h
    | some members =>
      have hrecord := (clauseMembers?_eq_some_iff.mp he).1
      rw [clausesAtEnd_concat_of_some es he, merged_concat, List.flatten_append,
        List.flatten_singleton]
      by_cases hrest : clausesAtEnd es = []
      · -- The first clause behind an entry that is none: it replaces that entry.
        have hself : Members.ofEntries ([] ++ members) = members :=
          Members.ofEntries_eq_self (hnd e (by simp) members he)
        rw [merge_of_old_eq_none (merged_of_clausesAtEnd_eq_nil hrest).2, hrest, List.flatten_nil,
          hself, ← hrecord]
        exact ⟨rfl, he⟩
      · obtain ⟨hes, hlower⟩ := ih (fun e' he' => hnd e' (by simp [he'])) hrest
        rw [merge_of_some hlower he, Members.ofEntries_append]
        rw [hes, Option.bind_some] at hlower
        exact ⟨rfl, clauseMembers?_overlay hlower he⟩

/-- What is left of the entries when the clauses at the end are taken off. -/
theorem exists_eq_append_clausesAtEnd (es : List Value) :
    ∃ before, es = before ++ (clausesAtEnd es).map Value.record ∧
      ∀ e ∈ before.getLast?, clauseMembers? e = none := by
  induction es using List.reverseRecOn with
  | nil => exact ⟨[], rfl, fun e he => (Option.not_mem_none e he).elim⟩
  | append_singleton es e ih =>
    cases he : clauseMembers? e with
    | none =>
      rw [clausesAtEnd_concat_of_none es he]
      refine ⟨es ++ [e], (List.append_nil _).symm, fun e' he' => ?_⟩
      rw [List.getLast?_concat] at he'
      exact Option.mem_some.mp he' ▸ he
    | some members =>
      obtain ⟨before, hes, hlast⟩ := ih
      refine ⟨before, ?_, hlast⟩
      rw [clausesAtEnd_concat_of_some es he, List.map_append, ← List.append_assoc, ← hes,
        (clauseMembers?_eq_some_iff.mp he).1]
      rfl

/-! ### What the merged clauses hold -/

theorem clauseMembers?_of_mem_clausesAtEnd {es : List Value} {clause : Members}
    (h : clause ∈ clausesAtEnd es) :
    .record clause ∈ es ∧ clauseMembers? (.record clause) = some clause := by
  obtain ⟨e, he, hclause⟩ := List.mem_filterMap.mp h
  rw [← (clauseMembers?_eq_some_iff.mp hclause).1]
  exact ⟨(List.rtakeWhile_suffix _ _).subset he, hclause⟩

/-- The names of merged clauses, in the order in which they came first. -/
theorem names_ofEntries_flatten (clauses : List Members) :
    Members.names (Members.ofEntries clauses.flatten)
      = (clauses.flatMap Members.names).eraseDups := by
  have hnames : clauses.flatten.map Prod.fst = clauses.flatMap Members.names := by
    rw [List.map_flatten, List.flatMap_def]
    rfl
  rw [← hnames]
  exact Members.names_foldl_eq_eraseDups
    (fun members entry => Members.names_insert members entry.1 entry.2) clauses.flatten

/-- Under every name the last clause that has it decides. -/
theorem get?_ofEntries_flatten {clauses : List Members}
    (hnd : ∀ clause ∈ clauses, (Members.names clause).Nodup) (name : String) :
    Members.get? (Members.ofEntries clauses.flatten) name
      = clauses.reverse.findSome? fun clause => Members.get? clause name := by
  induction clauses using List.reverseRecOn with
  | nil => rfl
  | append_singleton clauses clause ih =>
    rw [List.flatten_append, List.flatten_singleton, Members.ofEntries_append,
      Members.get?_overlay (hnd clause (by simp)), ih fun c hc => hnd c (by simp [hc]),
      List.reverse_append, List.reverse_singleton, List.singleton_append, List.findSome?_cons]
    cases Members.get? clause name <;> rfl

/-- What the entries of a field come to, read from the end. -/
inductive ComesTo (es : List Value) : Option Value → Prop where
  /-- The last entry stands if it is no clause. Without entries there is nothing. -/
  | last (h : ∀ e ∈ es.getLast?, clauseMembers? e = none) : ComesTo es es.getLast?
  /-- Clauses at the end are merged into one that has their operators and nothing else, each with
  the value of the last clause that has it. -/
  | merged (before : List Value) (clauses : List Members) (operators : Members)
    (entries : es = before ++ clauses.map Value.record)
    (replaced : ∀ e ∈ before.getLast?, clauseMembers? e = none)
    (nonempty : clauses ≠ [])
    (areClauses : ∀ clause ∈ clauses, clauseMembers? (.record clause) = some clause)
    (names : Members.names operators = (clauses.flatMap Members.names).eraseDups)
    (values : ∀ name, Members.get? operators name
      = clauses.reverse.findSome? fun clause => Members.get? clause name) :
    ComesTo es (some (.record operators))

theorem comesTo_merged {es : List Value}
    (hnd : ∀ e ∈ es, ∀ members, clauseMembers? e = some members → (Members.names members).Nodup) :
    ComesTo es (merged es) := by
  by_cases h : clausesAtEnd es = []
  · obtain ⟨hlast, hclause⟩ := merged_of_clausesAtEnd_eq_nil h
    rw [hlast] at hclause ⊢
    refine .last fun e he => ?_
    rw [Option.mem_def.mp he] at hclause
    exact hclause
  · obtain ⟨before, hes, hreplaced⟩ := exists_eq_append_clausesAtEnd es
    have hclauses : ∀ clause ∈ clausesAtEnd es, (Members.names clause).Nodup := fun clause hc =>
      have hmem := clauseMembers?_of_mem_clausesAtEnd hc
      hnd _ hmem.1 clause hmem.2
    rw [(merged_of_clausesAtEnd_ne_nil hnd h).1]
    exact .merged before (clausesAtEnd es) _ hes hreplaced h
      (fun clause hc => (clauseMembers?_of_mem_clausesAtEnd hc).2)
      (names_ofEntries_flatten _) (get?_ofEntries_flatten hclauses)

/-! ### The whole selector -/

/-- The selector that entries build, said without following the rows. -/
structure LastWriterWins (entries : List (String × Value)) (selector : Members) : Prop where
  /-- The fields are those of the entries, in the order in which they came first. -/
  fields : Members.names selector = (entries.map Prod.fst).eraseDups
  /-- A field comes to what its entries come to. -/
  entry : ∀ field, ComesTo (entriesOf field entries) (Members.get? selector field)
  /-- Entries for other fields have no part in it: wherever a field has the same entries, it comes
  to the same. -/
  isolated : ∀ field rows' entries', contributions rows' = .ok entries' →
    entriesOf field entries' = entriesOf field entries →
      ∃ selector', buildSelector rows' = .ok selector' ∧
        Members.get? selector' field = Members.get? selector field

/-- A value that, if it is an object, has each of its names once. -/
def HasDistinctNames : Value → Prop
  | .object _ members => (Members.names members).Nodup
  | _ => True

/-- The clause of a row is that of its operator, unless the row gives one as its value. -/
theorem Row.nodup_of_entry? {row : Row} {entry : Value} {members : Members}
    (hrow : HasDistinctNames row.value) (h : row.entry? = .ok (some entry))
    (hentry : clauseMembers? entry = some members) : (Members.names members).Nodup := by
  by_cases hop : row.operator = equality
  · unfold entry? at h
    rw [if_pos hop] at h
    split at h
    next given hvalue =>
      obtain rfl := Option.some.inj (Except.ok.inj h)
      obtain rfl := Value.object.inj (clauseMembers?_eq_some_iff.mp hentry).1 |>.2
      rw [hvalue] at hrow
      exact hrow
    next hvalue =>
      obtain rfl := Option.some.inj (Except.ok.inj h)
      rw [(clauseMembers?_eq_some_iff.mp hentry).1] at hrow
      exact hrow
  · obtain ⟨argument, rfl⟩ := entry?_eq_clause hop h
    obtain rfl := Value.object.inj (clauseMembers?_eq_some_iff.mp hentry).1 |>.2
    exact List.nodup_singleton _

theorem nodup_of_contributions
    (hrows : ∀ v ∈ rows, ∀ row, Row.ofValue v = .ok row → HasDistinctNames row.value)
    (h : contributions rows = .ok entries) :
    ∀ entry ∈ entries, ∀ members, clauseMembers? entry.2 = some members →
      (Members.names members).Nodup := by
  induction rows generalizing entries with
  | nil =>
    obtain rfl := Except.ok.inj h
    exact List.forall_mem_nil _
  | cons v rest ih =>
    obtain ⟨row, hrow, h₁⟩ := bind_eq_ok.mp h
    obtain ⟨found, hfound, h₂⟩ := bind_eq_ok.mp h₁
    obtain ⟨others, hothers, h₃⟩ := bind_eq_ok.mp h₂
    obtain rfl := Except.ok.inj h₃
    intro entry hmem members hmembers
    rcases List.mem_append.mp hmem with hmem | hmem
    · obtain rfl : found = some entry := Option.mem_toList.mp hmem
      exact Row.nodup_of_entry? (hrows v List.mem_cons_self row hrow)
        (Row.entry?_of_contribution hfound).1 hmembers
    · exact ih (fun w hw => hrows w (List.mem_cons_of_mem v hw)) hothers entry hmem members hmembers

/-- **The last writer wins, field by field and operator by operator.** Rows build a selector
exactly if their entries can be found, and it is the one that `LastWriterWins` describes. Fields are
taken to be texts: one that is not counts by its spelling, so `5` and `"5"` are one field here. -/
theorem buildSelector_lastWriterWins
    (hrows : ∀ v ∈ rows, ∀ row, Row.ofValue v = .ok row → HasDistinctNames row.value) :
    (∀ e, buildSelector rows = .error e ↔ contributions rows = .error e) ∧
      ∀ entries, contributions rows = .ok entries →
        ∃ selector, buildSelector rows = .ok selector ∧ LastWriterWins entries selector := by
  refine ⟨fun e => ?_, fun entries h => ?_⟩
  · rw [buildSelector_eq]
    rcases contributions rows with e' | entries
    · exact Iff.rfl
    · exact ⟨fun h => (by cases h), fun h => (by cases h)⟩
  · refine ⟨putEntries [] entries, by rw [buildSelector_eq, h]; rfl, names_putEntries entries,
      fun field => ?_, fun field rows' entries' h' hsame => ?_⟩
    · rw [get?_putEntries]
      refine comesTo_merged fun e he => ?_
      obtain ⟨entry, hentry, rfl⟩ := List.mem_map.mp he
      exact nodup_of_contributions hrows h entry (List.mem_filter.mp hentry).1
    · refine ⟨putEntries [] entries', by rw [buildSelector_eq, h']; rfl, ?_⟩
      rw [get?_putEntries, get?_putEntries, hsame]

/-- Two fields whose rows alternate. One of them has an operator twice and starts with an equality
whose value looks like a clause; the last row of the other is the literal that stands. -/
theorem buildSelector_lastWriterWins_alternating :
    let row (field operator : String) (value : Value) : Value :=
      .record [("field", .str field), ("operator", .str operator), ("value", value)]
    let rows : List Value := [row "age" "eq" (.record [("$gte", .int 18)]),
      row "name" "regex" (.str "^a"), row "age" "lt" (.int 65), row "name" "eq" (.str "ann"),
      row "age" "size" (.str "x"), row "age" "gte" (.int 21)]
    let entries : List (String × Value) := [("age", .record [("$gte", .int 18)]),
      ("name", .record [("$regex", .str "^a")]), ("age", .record [("$lt", .int 65)]),
      ("name", .str "ann"), ("age", .record [("$gte", .int 21)])]
    let selector : Members :=
      [("age", .record [("$gte", .int 21), ("$lt", .int 65)]), ("name", .str "ann")]
    (∀ v ∈ rows, ∀ row, Row.ofValue v = .ok row → HasDistinctNames row.value) ∧
      contributions rows = .ok entries ∧ buildSelector rows = .ok selector ∧
      LastWriterWins entries selector := by
  intro row rows entries selector
  have hrows : ∀ v ∈ rows, ∀ row, Row.ofValue v = .ok row → HasDistinctNames row.value := by
    refine forall_row_of_exists ?_
    simp only [rows, List.forall_mem_cons]
    exact ⟨⟨_, rfl, List.nodup_singleton _⟩, ⟨_, rfl, trivial⟩, ⟨_, rfl, trivial⟩,
      ⟨_, rfl, trivial⟩, ⟨_, rfl, trivial⟩, ⟨_, rfl, trivial⟩, List.forall_mem_nil _⟩
  have hentries : contributions rows = .ok entries := rfl
  have hselector : buildSelector rows = .ok selector := rfl
  obtain ⟨selector', hselector', hwins⟩ := (buildSelector_lastWriterWins hrows).2 entries hentries
  obtain rfl := Except.ok.inj (hselector.symm.trans hselector')
  exact ⟨hrows, hentries, hselector, hwins⟩

end DocView.Query
