import DocView.Proofs.Query.Merging
import DocView.Proofs.Query.Replay
import DocView.Proofs.Query.RoundTrip

/-!
# What a built selector says of a document

A row with an operator other than equality says something of a document by itself: the selector that
it builds alone is a test. Rows that build one selector together should say all that they say one by
one, and so they do as long as no two of them have the same field and the same operator. A clause
holds an operator once, so of such rows only the last is in the selector.

A field and an operator make a *slot*. What a selector made of clauses says is a conjunction over
its slots, and one more row changes one slot and leaves the others alone. After all rows, then, a
slot holds what the last of its rows has put there.

## Main definitions

* `Query.Selects` - the replay of a selector on one document
* `Query.operatorAt` - what a selector holds in a slot
* `Query.placement?`, `Query.Overwritten` - where a row puts what, and whether that is lost

## Main results

* `Query.operatorAt_putEntry`, `Query.operatorAt_putEntries` - one row, and all rows
* `Query.buildSelector_slots`
* `Query.selects_iff` - a conjunction over the slots
* `Query.selects_buildSelector_iff`
-/

namespace DocView.Query

variable {selector : Members} {document : Value}

/-- Whether the conditions that a selector stands for accept a document, all of them. -/
def Selects (selector : Members) (document : Value) : Prop :=
  FilterSet.passes ⟨conditionsOf selector, .and⟩ document = .ok true

/-! ### Slots -/

/-- What a selector holds for a field and an operator. -/
def operatorAt (selector : Members) (slot : String × String) : Option Value :=
  ((Members.get? selector slot.1).bind clauseMembers?).bind fun operators =>
    Members.get? operators slot.2

/-- A selector all of whose members are clauses. No name comes twice in it, or in a clause. -/
structure OnlyClauses (selector : Members) : Prop where
  /-- No field comes twice. -/
  distinct : (Members.names selector).Nodup
  /-- Every field has a clause, in which no operator comes twice. -/
  clauses : ∀ field v, Members.get? selector field = some v →
    ∃ operators, clauseMembers? v = some operators ∧ (Members.names operators).Nodup

/-- The clause of one operator. -/
def clauseOf (slot : String × String) (argument : Value) : Value :=
  .record [(slot.2, argument)]

theorem clauseMembers?_clauseOf {slot : String × String} (hname : Text.startsWith slot.2 "$")
    (argument : Value) : clauseMembers? (clauseOf slot argument) = some [(slot.2, argument)] := by
  refine clauseMembers?_eq_some_iff.mpr ⟨rfl, List.cons_ne_nil _ _, ?_⟩
  exact List.forall_mem_singleton.mpr hname

/-- A clause of one operator is put into the clause that is there, or stands for itself. -/
theorem merge_clauseOf {slot : String × String} (hname : Text.startsWith slot.2 "$")
    (old : Option Value) (argument : Value) :
    clauseMembers? (merge old (clauseOf slot argument))
      = some (Members.insert ((old.bind clauseMembers?).getD []) slot.2 argument) := by
  have hclause := clauseMembers?_clauseOf hname argument
  cases hold : old.bind clauseMembers? with
  | none => rw [merge_of_old_eq_none hold, hclause]; rfl
  | some lower =>
    obtain ⟨v, -, hv⟩ := Option.bind_eq_some_iff.mp hold
    rw [merge_of_some hold hclause, clauseMembers?_overlay hv hclause]
    rfl

/-- **One row changes one slot.** -/
theorem operatorAt_putEntry {slot : String × String} (hname : Text.startsWith slot.2 "$")
    (selector : Members) (argument : Value) (other : String × String) :
    operatorAt (putEntry selector slot.1 (clauseOf slot argument)) other
      = if other = slot then some argument else operatorAt selector other := by
  obtain ⟨field, name⟩ := slot
  obtain ⟨field', name'⟩ := other
  unfold operatorAt
  rw [putEntry_eq, Members.get?_insert]
  by_cases hfield : field' = field
  · subst hfield
    rw [if_pos rfl, Option.bind_some, merge_clauseOf hname, Option.bind_some, Members.get?_insert]
    simp only [Prod.mk.injEq, true_and]
    cases (Members.get? selector field').bind clauseMembers? <;> rfl
  · have hne : (field', name') ≠ (field, name) := fun h => hfield (Prod.mk.inj h).1
    rw [if_neg hfield, if_neg hne]

theorem OnlyClauses.putEntry {slot : String × String} (h : OnlyClauses selector)
    (hname : Text.startsWith slot.2 "$") (argument : Value) :
    OnlyClauses (putEntry selector slot.1 (clauseOf slot argument)) where
  distinct := nodup_putEntry _ _ h.distinct
  clauses field v hv := by
    rw [putEntry_eq, Members.get?_insert] at hv
    split at hv
    next =>
      obtain rfl := Option.some.inj hv
      refine ⟨_, merge_clauseOf hname _ argument, Members.nodup_insert ?_⟩
      cases hold : (Members.get? selector slot.1).bind clauseMembers? with
      | none => exact List.nodup_nil
      | some lower =>
        obtain ⟨old, hget, hlower⟩ := Option.bind_eq_some_iff.mp hold
        obtain ⟨operators, hoperators, hnd⟩ := h.clauses slot.1 old hget
        obtain rfl := Option.some.inj (hlower.symm.trans hoperators)
        exact hnd
    next => exact h.clauses field v hv

/-! ### All rows -/

/-- The entries of placements. -/
def entriesAt (placements : List ((String × String) × Value)) : List (String × Value) :=
  placements.map fun p => (p.1.1, clauseOf p.1 p.2)

variable {placements : List ((String × String) × Value)}

theorem OnlyClauses.putEntries (h : OnlyClauses selector)
    (hnames : ∀ p ∈ placements, Text.startsWith p.1.2 "$") :
    OnlyClauses (putEntries selector (entriesAt placements)) := by
  induction placements generalizing selector with
  | nil => exact h
  | cons p rest ih =>
    obtain ⟨hp, hrest⟩ := List.forall_mem_cons.mp hnames
    exact ih (h.putEntry hp p.2) hrest

/-- **After all rows a slot holds what was put there last.** -/
theorem operatorAt_putEntries (selector : Members)
    (hnames : ∀ p ∈ placements, Text.startsWith p.1.2 "$") (slot : String × String) :
    operatorAt (Query.putEntries selector (entriesAt placements)) slot
      = (List.lookup slot placements.reverse).or (operatorAt selector slot) := by
  induction placements generalizing selector with
  | nil => rfl
  | cons p rest ih =>
    obtain ⟨hp, hrest⟩ := List.forall_mem_cons.mp hnames
    show operatorAt (Query.putEntries (Query.putEntry selector p.1.1 (clauseOf p.1 p.2))
      (entriesAt rest)) slot = _
    rw [ih _ hrest, operatorAt_putEntry hp, List.reverse_cons, List.lookup_append, Option.or_assoc]
    congr 1
    obtain ⟨slot', argument⟩ := p
    by_cases hslot : slot = slot'
    · simp [hslot]
    · have hne : (slot == slot') = false := beq_eq_false_iff_ne.mpr hslot
      simp [List.lookup_cons, hslot, hne]

/-! ### What a selector says -/

/-- What one operator says of a document. -/
def Holds (slot : String × String) (argument document : Value) : Prop :=
  ∀ c ∈ memberConditions slot.1 (clauseOf slot argument), c.accepts document = .ok true

theorem passesAll_eq_true_iff {conditions : List Condition} :
    FilterSet.passesAll document conditions = .ok true
      ↔ ∀ c ∈ conditions, c.accepts document = .ok true := by
  induction conditions with
  | nil => exact ⟨fun _ => List.forall_mem_nil _, fun _ => rfl⟩
  | cons c rest ih =>
    rw [List.forall_mem_cons, ← ih, FilterSet.passesAll, bind_eq_ok]
    constructor
    · rintro ⟨kept, hkept, hrest⟩
      cases kept with
      | true => exact ⟨hkept, hrest⟩
      | false => cases Except.ok.inj hrest
    · rintro ⟨hc, hrest⟩
      exact ⟨true, hc, hrest⟩

theorem selects_iff_forall_mem :
    Selects selector document
      ↔ ∀ entry ∈ selector, ∀ c ∈ memberConditions entry.1 entry.2, c.accepts document = .ok true := by
  have hmem : (∀ c ∈ conditionsOf selector, c.accepts document = .ok true)
      ↔ ∀ entry ∈ selector, ∀ c ∈ memberConditions entry.1 entry.2,
        c.accepts document = .ok true := List.forall_mem_flatMap
  rw [← hmem, ← passesAll_eq_true_iff, Selects, FilterSet.passes]
  cases conditionsOf selector with
  | nil => exact ⟨fun _ => rfl, fun _ => rfl⟩
  | cons c rest => exact Iff.rfl

/-- The conditions of a clause are those of its operators. -/
theorem mem_memberConditions_record {field : String} {operators : Members} {c : Condition} :
    c ∈ memberConditions field (.record operators)
      ↔ ∃ entry ∈ operators, c ∈ memberConditions field (.record [entry]) := by
  by_cases hfield : Text.startsWith field "$"
  · simp [memberConditions_dollar hfield]
  · simp only [memberConditions_object hfield, List.mem_filterMap, List.mem_singleton,
      exists_eq_left]

/-- **What a selector of clauses says is a conjunction over its slots.** -/
theorem selects_iff (h : OnlyClauses selector) :
    Selects selector document
      ↔ ∀ slot argument, operatorAt selector slot = some argument →
        Holds slot argument document := by
  rw [selects_iff_forall_mem]
  constructor
  · intro hall slot argument hargument c hc
    obtain ⟨operators, hclause, hget⟩ := Option.bind_eq_some_iff.mp hargument
    obtain ⟨v, hv, hoperators⟩ := Option.bind_eq_some_iff.mp hclause
    refine hall (slot.1, v) (Members.mem_of_get? hv) c ?_
    rw [(clauseMembers?_eq_some_iff.mp hoperators).1]
    exact mem_memberConditions_record.mpr ⟨_, Members.mem_of_get? hget, hc⟩
  · intro hall entry hentry c hc
    have hget := Members.get?_eq_some_of_mem h.distinct hentry
    obtain ⟨operators, hoperators, hnd⟩ := h.clauses entry.1 entry.2 hget
    rw [(clauseMembers?_eq_some_iff.mp hoperators).1] at hc
    obtain ⟨operator, hmem, hc⟩ := mem_memberConditions_record.mp hc
    refine hall (entry.1, operator.1) operator.2 ?_ c hc
    rw [operatorAt, hget, Option.bind_some, hoperators, Option.bind_some]
    exact Members.get?_eq_some_of_mem hnd hmem

/-! ### Rows -/

variable {rows : List Value} {v : Value}

theorem startsWith_operatorName (v : Value) : Text.startsWith (operatorName v) "$" := by
  unfold operatorName
  dsimp only
  split
  next => rfl
  next =>
    split
    next h => exact h
    next => simp [Text.startsWith]

theorem startsWith_operator {row : Row} (h : Row.ofValue v = .ok row) :
    Text.startsWith row.operator "$" := by
  obtain ⟨members, -, hrow⟩ := bind_eq_ok.mp h
  have hop : row.operator = operatorName (Value.member members "operator") := by
    rw [← Except.ok.inj hrow]
  rw [hop]
  exact startsWith_operatorName _

/-- Where a row with an operator puts its argument; nothing if the row is passed over. -/
def placement? (v : Value) : Option ((String × String) × Value) :=
  match Row.ofValue v >>= Row.contribution with
  | .ok (some (field, .object _ [(name, argument)])) => some ((field, name), argument)
  | _ => none

/-- A row that has an operator and can be read. -/
structure IsPlaced (v : Value) : Prop where
  contribution : (Row.ofValue v >>= Row.contribution)
    = .ok ((placement? v).map fun p => (p.1.1, clauseOf p.1 p.2))
  isOperator : ∀ p ∈ placement? v, Text.startsWith p.1.2 "$"

theorem isPlaced_of_contribution {row : Row} {found : Option (String × Value)}
    (hop : row.operator ≠ equality) (hrow : Row.ofValue v = .ok row)
    (hfound : row.contribution = .ok found) : IsPlaced v := by
  have hrun : (Row.ofValue v >>= Row.contribution) = .ok found := by rw [hrow]; exact hfound
  cases found with
  | none =>
    have hnone : placement? v = none := by rw [placement?, hrun]
    refine ⟨by rw [hrun, hnone]; rfl, fun p hp => ?_⟩
    rw [hnone] at hp
    exact absurd hp (Option.not_mem_none p)
  | some entry =>
    obtain ⟨field, value⟩ := entry
    obtain ⟨argument, hclause⟩ :=
      Row.entry?_eq_clause hop (Row.entry?_of_contribution hfound).1
    obtain rfl : value = row.clause argument := hclause
    have hsome : placement? v = some ((field, row.operator), argument) := by
      rw [placement?, hrun, Row.clause]
    refine ⟨by rw [hrun, hsome]; rfl, fun p hp => ?_⟩
    obtain rfl := Option.some.inj (hsome.symm.trans hp)
    exact startsWith_operator hrow

theorem isPlaced_of_contributions {entries : List (String × Value)}
    (hops : ∀ v ∈ rows, ∀ row, Row.ofValue v = .ok row → row.operator ≠ equality)
    (h : contributions rows = .ok entries) : ∀ v ∈ rows, IsPlaced v := by
  induction rows generalizing entries with
  | nil => exact List.forall_mem_nil _
  | cons v rest ih =>
    obtain ⟨row, hrow, h₁⟩ := bind_eq_ok.mp h
    obtain ⟨found, hfound, h₂⟩ := bind_eq_ok.mp h₁
    obtain ⟨others, hothers, -⟩ := bind_eq_ok.mp h₂
    obtain ⟨hop, hrest⟩ := List.forall_mem_cons.mp hops
    exact List.forall_mem_cons.mpr
      ⟨isPlaced_of_contribution (hop row hrow) hrow hfound, ih hrest hothers⟩

theorem contributions_of_isPlaced (h : ∀ v ∈ rows, IsPlaced v) :
    contributions rows = .ok (entriesAt (rows.filterMap placement?)) := by
  induction rows with
  | nil => rfl
  | cons v rest ih =>
    obtain ⟨hv, hrest⟩ := List.forall_mem_cons.mp h
    obtain ⟨row, hrow, hfound⟩ := bind_eq_ok.mp hv.contribution
    refine bind_eq_ok.mpr ⟨row, hrow, bind_eq_ok.mpr ⟨_, hfound, bind_eq_ok.mpr ⟨_, ih hrest, ?_⟩⟩⟩
    rw [List.filterMap_cons]
    cases placement? v <;> rfl

theorem isPlaced_of_buildSelector
    (hops : ∀ v ∈ rows, ∀ row, Row.ofValue v = .ok row → row.operator ≠ equality)
    (hbuild : buildSelector rows = .ok selector) : ∀ v ∈ rows, IsPlaced v := by
  rw [buildSelector_eq] at hbuild
  obtain ⟨entries, hentries, -⟩ := map_eq_ok.mp hbuild
  exact isPlaced_of_contributions hops hentries

/-- Rows build a selector that holds in each slot what the last of them puts there. -/
theorem buildSelector_slots (h : ∀ v ∈ rows, IsPlaced v) :
    ∃ selector, buildSelector rows = .ok selector ∧ OnlyClauses selector ∧
      ∀ slot, operatorAt selector slot = List.lookup slot (rows.filterMap placement?).reverse := by
  have hnames : ∀ p ∈ rows.filterMap placement?, Text.startsWith p.1.2 "$" := by
    intro p hp
    obtain ⟨v, hv, hplacement⟩ := List.mem_filterMap.mp hp
    exact (h v hv).isOperator p hplacement
  have hempty : OnlyClauses [] := ⟨List.nodup_nil, fun _ _ hnone => by cases hnone⟩
  refine ⟨putEntries [] (entriesAt (rows.filterMap placement?)), ?_, hempty.putEntries hnames,
    fun slot => ?_⟩
  · rw [buildSelector_eq, contributions_of_isPlaced h]
    rfl
  · rw [operatorAt_putEntries [] hnames]
    exact Option.or_none

/-- What rows say together: of each slot, what the last of them says. -/
theorem buildSelector_of_isPlaced (h : ∀ v ∈ rows, IsPlaced v) :
    ∃ selector, buildSelector rows = .ok selector ∧ ∀ document, Selects selector document
      ↔ ∀ slot argument, List.lookup slot (rows.filterMap placement?).reverse = some argument →
        Holds slot argument document := by
  obtain ⟨selector, hbuild, hclauses, hslots⟩ := buildSelector_slots h
  refine ⟨selector, hbuild, fun document => ?_⟩
  simp only [selects_iff hclauses, hslots]

/-! ### Rows that are overwritten -/

/-- Whether one of the rows behind a row has the same field and operator. -/
def Overwritten (v : Value) (after : List Value) : Prop :=
  ∃ w ∈ after, ∃ slot argument argument',
    placement? v = some (slot, argument) ∧ placement? w = some (slot, argument')

/-- Whether a row that builds a selector alone says with it that a document is selected. -/
def SelectsAlone (v document : Value) : Prop :=
  ∃ alone, buildSelector [v] = .ok alone ∧ Selects alone document

/-- Of each slot the last placement counts, and that is the one of a row that is not
overwritten. -/
theorem forall_lookup_iff {P : String × String → Value → Prop} :
    (∀ slot argument, List.lookup slot (rows.filterMap placement?).reverse = some argument →
        P slot argument)
      ↔ ∀ before v after, rows = before ++ v :: after → ¬ Overwritten v after →
        ∀ p ∈ placement? v, P p.1 p.2 := by
  constructor
  · rintro hall before v after rfl hlast ⟨slot, argument⟩ hp
    refine hall slot argument (List.lookup_eq_some_iff.mpr
      ⟨(after.filterMap placement?).reverse, (before.filterMap placement?).reverse, ?_, ?_⟩)
    · rw [List.filterMap_append, List.filterMap_cons_some hp, List.reverse_append,
        List.reverse_cons, List.append_assoc]
      rfl
    · rintro ⟨slot', argument'⟩ hmem
      obtain ⟨w, hw, hplacement⟩ := List.mem_filterMap.mp (List.mem_reverse.mp hmem)
      refine bne_iff_ne.mpr fun hslot : slot = slot' => hlast ⟨w, hw, slot, argument, argument', hp, ?_⟩
      rw [hplacement, hslot]
  · intro hall slot argument hlookup
    obtain ⟨later, earlier, hreverse, hlater⟩ := List.lookup_eq_some_iff.mp hlookup
    have hplacements : rows.filterMap placement?
        = earlier.reverse ++ (slot, argument) :: later.reverse := by
      rw [← List.reverse_reverse (rows.filterMap placement?), hreverse, List.reverse_append,
        List.reverse_cons, List.append_assoc]
      rfl
    obtain ⟨before, rest, rfl, -, hrest⟩ := List.filterMap_eq_append_iff.mp hplacements
    obtain ⟨skipped, v, after, rfl, -, hv, hafter⟩ := List.filterMap_eq_cons_iff.mp hrest
    refine hall (before ++ skipped) v after (List.append_assoc _ _ _).symm ?_ (slot, argument) hv
    rintro ⟨w, hw, slot', argument', argument'', hv', hw'⟩
    obtain ⟨rfl, -⟩ := Prod.mk.inj (Option.some.inj (hv.symm.trans hv'))
    have hmem : (slot, argument'') ∈ later := by
      rw [← List.mem_reverse, ← hafter]
      exact List.mem_filterMap.mpr ⟨w, hw, hw'⟩
    exact bne_iff_ne.mp (hlater _ hmem) rfl

theorem selectsAlone_iff (h : IsPlaced v) :
    SelectsAlone v document ↔ ∀ p ∈ placement? v, Holds p.1 p.2 document := by
  have hsingle : ∀ w ∈ [v], IsPlaced w := List.forall_mem_singleton.mpr h
  obtain ⟨alone, halone, hselects⟩ := buildSelector_of_isPlaced hsingle
  have hiff : SelectsAlone v document ↔ Selects alone document := by
    constructor
    · rintro ⟨alone', halone', hdocument⟩
      exact Except.ok.inj (halone.symm.trans halone') ▸ hdocument
    · exact fun hdocument => ⟨alone, halone, hdocument⟩
  rw [hiff, hselects, forall_lookup_iff]
  constructor
  · exact fun hall => hall [] v [] rfl fun ⟨_, hw, _⟩ => absurd hw List.not_mem_nil
  · intro hv before w after hsplit _
    rcases List.singleton_eq_append_iff.mp hsplit with ⟨-, hw⟩ | ⟨-, hw⟩
    · exact (List.cons.inj hw).1 ▸ hv
    · contradiction

/-- Without a row that is overwritten every slot holds what it held. -/
theorem lookup_without_overwritten (before : List Value) {after : List Value}
    (hlost : Overwritten v after) (slot : String × String) :
    List.lookup slot ((before ++ v :: after).filterMap placement?).reverse
      = List.lookup slot ((before ++ after).filterMap placement?).reverse := by
  obtain ⟨w, hw, slot', argument, argument', hv, hw'⟩ := hlost
  rw [List.filterMap_append, List.filterMap_append, List.filterMap_cons_some hv,
    List.reverse_append, List.reverse_append, List.reverse_cons, List.append_assoc,
    List.singleton_append, List.lookup_append, List.lookup_append]
  by_cases hslot : slot = slot'
  · subst hslot
    -- The later row answers before either of the two is reached.
    have hlater : (slot, argument') ∈ (after.filterMap placement?).reverse :=
      List.mem_reverse.mpr (List.mem_filterMap.mpr ⟨w, hw, hw'⟩)
    cases hlookup : List.lookup slot (after.filterMap placement?).reverse with
    | none => exact absurd rfl (bne_iff_ne.mp (List.lookup_eq_none_iff.mp hlookup _ hlater))
    | some found => rfl
  · rw [List.lookup_cons, beq_eq_false_iff_ne.mpr hslot]

/-- **What a built selector says.** The rows have operators other than equality, and they build a
selector. Their fields are taken to be texts: one that is not counts by its spelling.

* The selector selects a document exactly if every row that is not overwritten does so alone.
* If no row is overwritten, it does so exactly if every row does.
* A row that is overwritten has no part in it: the others build a selector that selects the same
documents. -/
theorem selects_buildSelector_iff
    (hops : ∀ v ∈ rows, ∀ row, Row.ofValue v = .ok row → row.operator ≠ equality)
    (hbuild : buildSelector rows = .ok selector) :
    (∀ document, Selects selector document ↔ ∀ before v after, rows = before ++ v :: after →
      ¬ Overwritten v after → SelectsAlone v document) ∧
    ((∀ before v after, rows = before ++ v :: after → ¬ Overwritten v after) →
      ∀ document, Selects selector document ↔ ∀ v ∈ rows, SelectsAlone v document) ∧
    (∀ before v after, rows = before ++ v :: after → Overwritten v after →
      ∃ others, buildSelector (before ++ after) = .ok others ∧
        ∀ document, Selects others document ↔ Selects selector document) := by
  have hplaced := isPlaced_of_buildSelector hops hbuild
  obtain ⟨selector', hbuild', hselects⟩ := buildSelector_of_isPlaced hplaced
  obtain rfl := Except.ok.inj (hbuild.symm.trans hbuild')
  have hfirst : ∀ document, Selects selector document ↔ ∀ before v after,
      rows = before ++ v :: after → ¬ Overwritten v after → SelectsAlone v document := by
    intro document
    rw [hselects, forall_lookup_iff]
    refine forall_congr' fun before => forall_congr' fun v => forall_congr' fun after =>
      forall_congr' fun hsplit => forall_congr' fun _ => ?_
    exact (selectsAlone_iff (hplaced v (by simp [hsplit]))).symm
  refine ⟨hfirst, fun hnone document => ?_, fun before v after hsplit hlost => ?_⟩
  · rw [hfirst]
    constructor
    · intro hall v hv
      obtain ⟨before, after, hsplit⟩ := List.append_of_mem hv
      exact hall before v after hsplit (hnone before v after hsplit)
    · exact fun hall before v after hsplit _ => hall v (by simp [hsplit])
  · subst hsplit
    have hothers : ∀ w ∈ before ++ after, IsPlaced w := by
      intro w hw
      refine hplaced w ?_
      rcases List.mem_append.mp hw with hw | hw <;> simp [hw]
    obtain ⟨others, hbuilt, hsame⟩ := buildSelector_of_isPlaced hothers
    refine ⟨others, hbuilt, fun document => ?_⟩
    simp only [hsame, hselects, lookup_without_overwritten before hlost]

/-- A row of the query builder as an object. -/
def rowOf (field operator value : String) : Value :=
  .record [("field", .str field), ("operator", .str operator), ("value", .str value)]

/-- Two bounds of the same kind on one field, with a row on another field in between: the first
bound is lost. -/
theorem selects_buildSelector_iff_bounds :
    let rows : List Value :=
      [rowOf "age" "gt" "20", rowOf "name" "exists" "true", rowOf "age" "gt" "10"]
    let selector : Members :=
      [("age", .record [("$gt", .int 10)]), ("name", .record [("$exists", .bool true)])]
    (∀ v ∈ rows, ∀ row, Row.ofValue v = .ok row → row.operator ≠ equality) ∧
      buildSelector rows = .ok selector ∧
      ∃ others, buildSelector [rowOf "name" "exists" "true", rowOf "age" "gt" "10"] = .ok others ∧
        ∀ document, Selects others document ↔ Selects selector document := by
  intro rows selector
  have hops : ∀ v ∈ rows, ∀ row, Row.ofValue v = .ok row → row.operator ≠ equality := by
    refine forall_row_of_exists ?_
    simp only [rows, List.forall_mem_cons]
    exact ⟨⟨_, rfl, by decide⟩, ⟨_, rfl, by decide⟩, ⟨_, rfl, by decide⟩, List.forall_mem_nil _⟩
  have hbuild : buildSelector rows = .ok selector := rfl
  have hlost : Overwritten (rowOf "age" "gt" "20")
      [rowOf "name" "exists" "true", rowOf "age" "gt" "10"] :=
    ⟨rowOf "age" "gt" "10", by simp, ("age", "$gt"), .int 20, .int 10, rfl, rfl⟩
  exact ⟨hops, hbuild, (selects_buildSelector_iff hops hbuild).2.2 [] _ _ rfl hlost⟩

/-- Someone of 15 is selected by two rows that ask for more than 20 and for more than 10. The first
row alone does not select them. -/
theorem not_selects_buildSelector_iff_all :
    ¬ ∀ (rows : List Value) (selector : Members) (document : Value),
      (∀ v ∈ rows, ∀ row, Row.ofValue v = .ok row → row.operator ≠ equality) →
      buildSelector rows = .ok selector →
        (Selects selector document ↔ ∀ v ∈ rows, SelectsAlone v document) := by
  intro h
  let older := rowOf "age" "gt" "20"
  let old := rowOf "age" "gt" "10"
  let document : Value := .record [("age", .int 15)]
  have hops : ∀ v ∈ [older, old], ∀ row, Row.ofValue v = .ok row → row.operator ≠ equality := by
    refine forall_row_of_exists ?_
    simp only [List.forall_mem_cons]
    exact ⟨⟨_, rfl, by decide⟩, ⟨_, rfl, by decide⟩, List.forall_mem_nil _⟩
  have hselected : FilterSet.passes ⟨conditionsOf [("age", .record [("$gt", .int 10)])], .and⟩
      document = .ok true := by decide +kernel
  obtain ⟨alone, halone, hdocument⟩ :=
    (h [older, old] _ document hops rfl).mp hselected older List.mem_cons_self
  obtain rfl : [("age", Value.record [("$gt", .int 20)])] = alone := Except.ok.inj halone
  have hrejected : FilterSet.passes ⟨conditionsOf [("age", .record [("$gt", .int 20)])], .and⟩
      document = .ok false := by decide +kernel
  exact absurd (hdocument.symm.trans hrejected) (by simp)

end DocView.Query
