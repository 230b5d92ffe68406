import DocView.Proofs.Query.Conjunction

/-!
# What the operators of a built selector are given

Whatever is typed into the rows of a query builder, the store is only asked what it understands: the
list operators are given lists, a remainder is given two integers, a size one, and so on. A text that
reads as a number never reaches the store as a text, unless the operator is for text.

Each of this is said of one operator and its argument (`Row.suits_of_entry?`), and merging rows makes
no new arguments: an operator of the selector has the argument that one of the rows has put there
(`operatorAt_putEntries`). Where the rows ask for no literal values, the selector consists of
clauses, and so there is nothing in it but operators and their arguments.

## Main definitions

* `Query.Suits` - what an operator is given
* `Query.IsWellTyped`

## Main results

* `Query.Row.suits_of_entry?` - one row
* `Query.IsWellTyped.of_operatorAt` - from slots to the whole selector
* `Query.isWellTyped_buildSelector`
-/

namespace DocView.Query

/-! ### One operator -/

/-- A value that is not a text that reads as a number. -/
def IsCoerced (v : Value) : Prop :=
  ∀ s, v = .str s → coerceNumber (.str s) = none

/-- What an operator is given, if it is given what the store understands. -/
structure Suits (operator : String) (argument : Value) : Prop where
  /-- It is given something. -/
  given : argument ≠ .null ∧ argument ≠ .unset
  /-- The list operators are given lists. -/
  list : operator ∈ listOperators → ∃ items, argument = .array items ∧ ∀ v ∈ items, IsCoerced v
  /-- A remainder is given two integers. -/
  remainder : operator = "$mod" →
    ∃ divisor remainder : Int, argument = .array [.int divisor, .int remainder]
  /-- A size is given an integer. -/
  size : operator = "$size" → ∃ n : Int, argument = .int n
  /-- The question whether a field exists is given a truth value. -/
  existence : operator = "$exists" → ∃ b : Bool, argument = .bool b
  /-- The text operators are given texts. -/
  text : operator ∈ textOperators → ∃ s : String, argument = .str s
  /-- No other operator is given the text of a number. -/
  coerced : operator ∉ textOperators → IsCoerced argument

theorem isCoerced_token (v : Value) : IsCoerced (token v) := by
  intro s h
  cases v with
  | str t =>
    rw [token] at h
    cases ht : coerceNumber (.str t) with
    | none =>
      rw [ht] at h
      obtain rfl : t = s := Value.str.inj h
      exact ht
    | some number =>
      rw [ht] at h
      cases number <;> cases h
  | _ => cases h

/-- Only a value that is not there is null or unset after it was read as a token. -/
theorem token_given {v : Value} (h : v.isBlank = false) : token v ≠ .null ∧ token v ≠ .unset := by
  cases v with
  | str s =>
    rw [token]
    cases coerceNumber (.str s) with
    | none => exact ⟨Value.noConfusion, Value.noConfusion⟩
    | some number => cases number <;> exact ⟨Value.noConfusion, Value.noConfusion⟩
  | null => cases h
  | unset => cases h
  | _ => exact ⟨Value.noConfusion, Value.noConfusion⟩

/-! ### One row -/

variable {row : Row} {argument : Value}

theorem listOperator_ne {operator : String} (h : operator ∈ listOperators) :
    operator ≠ "$mod" ∧ operator ≠ "$size" ∧ operator ≠ "$exists" ∧ operator ∉ textOperators := by
  have hall : ∀ operator ∈ listOperators,
      operator ≠ "$mod" ∧ operator ≠ "$size" ∧ operator ≠ "$exists" ∧ operator ∉ textOperators := by
    decide
  exact hall operator h

namespace Row

theorem clause_inj {a b : Value} (h : row.clause a = row.clause b) : a = b := by
  obtain ⟨-, h⟩ := Value.object.inj h
  exact (Prod.mk.inj (List.cons.inj h).1).2

theorem argument_eq {found : Value} (h : (.ok (some (row.clause found)) : Result (Option Value))
    = .ok (some (row.clause argument))) : found = argument :=
  clause_inj (Option.some.inj (Except.ok.inj h))

/-- **A row gives its operator what suits it.** -/
theorem suits_of_entry? (hop : row.operator ≠ equality) (hblank : row.isBlank = false)
    (h : row.entry? = .ok (some (row.clause argument))) : Suits row.operator argument := by
  unfold entry? at h
  rw [if_neg hop] at h
  -- In every branch the fields of the other operators are left, whose names are others.
  split at h
  next hexists =>
    obtain rfl := argument_eq h
    rw [hexists]
    refine ⟨⟨nofun, nofun⟩, ?_, ?_, ?_, fun _ => ⟨_, rfl⟩, ?_, fun _ => nofun⟩
    all_goals exact fun hname => absurd hname (by decide)
  next hexists =>
  split at h
  next hlist =>
    obtain rfl := argument_eq h
    obtain ⟨hmod, hsize, -, htext⟩ := listOperator_ne (List.contains_iff_mem.mp hlist)
    have hitems : ∀ v ∈ (listed row.value).map token, IsCoerced v :=
      List.forall_mem_map.mpr fun v _ => isCoerced_token v
    exact ⟨⟨nofun, nofun⟩, fun _ => ⟨_, rfl, hitems⟩, fun hname => absurd hname hmod,
      fun hname => absurd hname hsize, fun hname => absurd hname hexists,
      fun hname => absurd hname htext, fun _ => nofun⟩
  next hlist =>
  split at h
  next hmod =>
    obtain ⟨numbers, -, h⟩ := bind_eq_ok.mp h
    split at h
    next divisor remainder =>
      obtain rfl := argument_eq h
      rw [hmod]
      refine ⟨⟨nofun, nofun⟩, ?_, fun _ => ⟨_, _, rfl⟩, ?_, ?_, ?_, fun _ => nofun⟩
      all_goals exact fun hname => absurd hname (by decide)
    next => cases Except.ok.inj h
  next hmod =>
  split at h
  next hsize =>
    obtain ⟨found, -, h⟩ := bind_eq_ok.mp h
    obtain ⟨n, -, hn⟩ := Option.map_eq_some_iff.mp (Except.ok.inj h)
    obtain rfl := clause_inj hn
    rw [hsize]
    refine ⟨⟨nofun, nofun⟩, ?_, ?_, fun _ => ⟨_, rfl⟩, ?_, ?_, fun _ => nofun⟩
    all_goals exact fun hname => absurd hname (by decide)
  next hsize =>
  have hlist : row.operator ∉ listOperators := mt List.contains_iff_mem.mpr hlist
  split at h
  next htext =>
    obtain rfl := argument_eq h
    have htext : row.operator ∈ textOperators := List.contains_iff_mem.mp htext
    exact ⟨⟨nofun, nofun⟩, fun hname => absurd hname hlist, fun hname => absurd hname hmod,
      fun hname => absurd hname hsize, fun hname => absurd hname hexists, fun _ => ⟨_, rfl⟩,
      fun hname => absurd htext hname⟩
  next htext =>
    obtain rfl := argument_eq h
    have htext : row.operator ∉ textOperators := mt List.contains_iff_mem.mpr htext
    exact ⟨token_given (Bool.or_eq_false_iff.mp hblank).2, fun hname => absurd hname hlist,
      fun hname => absurd hname hmod, fun hname => absurd hname hsize,
      fun hname => absurd hname hexists, fun hname => absurd hname htext,
      fun _ => isCoerced_token row.value⟩

end Row

theorem Row.isBlank_eq_false {entry : String × Value}
    (h : row.contribution = .ok (some entry)) : row.isBlank = false := by
  rw [contribution] at h
  split at h
  next => cases Except.ok.inj h
  next hblank => exact Bool.not_eq_true _ ▸ hblank

/-- What a row places suits the operator of its place. -/
theorem suits_of_placement? {v : Value} {p : (String × String) × Value}
    (hop : ∀ row, Row.ofValue v = .ok row → row.operator ≠ equality) (hp : p ∈ placement? v) :
    Suits p.1.2 p.2 := by
  rw [placement?] at hp
  split at hp
  next field form name argument hrun =>
    obtain rfl := Option.some.inj hp
    obtain ⟨row, hrow, hfound⟩ := bind_eq_ok.mp hrun
    obtain ⟨hentry, -⟩ := Row.entry?_of_contribution hfound
    obtain ⟨argument', hclause⟩ := Row.entry?_eq_clause (hop row hrow) hentry
    obtain ⟨-, hmembers⟩ := Value.object.inj hclause
    obtain ⟨rfl, rfl⟩ := Prod.mk.inj (List.cons.inj hmembers).1
    rw [hclause] at hentry
    exact Row.suits_of_entry? (hop row hrow) (Row.isBlank_eq_false hfound) hentry
  next => cases hp

/-! ### The whole selector -/

/-- A selector that holds operators only, each with an argument that suits it. -/
def IsWellTyped (selector : Members) : Prop :=
  ∀ entry ∈ selector, ∃ operators, entry.2 = .record operators ∧ operators ≠ [] ∧
    ∀ operator ∈ operators, Text.startsWith operator.1 "$" ∧ Suits operator.1 operator.2

variable {selector : Members} {rows : List Value}

theorem IsWellTyped.of_operatorAt (h : OnlyClauses selector)
    (hsuits : ∀ slot argument, operatorAt selector slot = some argument → Suits slot.2 argument) :
    IsWellTyped selector := by
  intro entry hentry
  have hget := Members.get?_eq_some_of_mem h.distinct hentry
  obtain ⟨operators, hoperators, hdistinct⟩ := h.clauses entry.1 entry.2 hget
  obtain ⟨hrecord, hne, hnames⟩ := clauseMembers?_eq_some_iff.mp hoperators
  refine ⟨operators, hrecord, hne, fun operator hmem => ⟨?_, ?_⟩⟩
  · exact hnames operator.1 (List.mem_map_of_mem hmem)
  · refine hsuits (entry.1, operator.1) operator.2 ?_
    rw [operatorAt, hget, Option.bind_some, hoperators, Option.bind_some]
    exact Members.get?_eq_some_of_mem hdistinct hmem

/-- **Built selectors are well typed.** Whatever the fields, by their spelling, and the values of the
rows are: if none of them is for equality and a selector is built, all it holds is clauses that are
not empty, and every operator of a clause has an argument that suits it. -/
theorem isWellTyped_buildSelector
    (hops : ∀ v ∈ rows, ∀ row, Row.ofValue v = .ok row → row.operator ≠ equality)
    (hbuild : buildSelector rows = .ok selector) : IsWellTyped selector := by
  obtain ⟨selector', hbuild', hclauses, hslots⟩ :=
    buildSelector_slots (isPlaced_of_buildSelector hops hbuild)
  obtain rfl := Except.ok.inj (hbuild.symm.trans hbuild')
  refine .of_operatorAt hclauses fun slot argument hget => ?_
  obtain ⟨later, earlier, hplacements, -⟩ :=
    List.lookup_eq_some_iff.mp ((hslots slot).symm.trans hget)
  have hmem : (slot, argument) ∈ rows.filterMap placement? :=
    List.mem_reverse.mp (hplacements ▸ by simp)
  obtain ⟨v, hv, hp⟩ := List.mem_filterMap.mp hmem
  exact suits_of_placement? (hops v hv) hp

/-- Bounds, a list, a remainder, a size and a pattern for two fields, each typed as text. A size that
is no integer is dropped, and the text of a list is cut at its commas. -/
theorem isWellTyped_buildSelector_typed :
    let rows : List Value := [rowOf "age" "gt" "20", rowOf "age" "in" "1, b, 03",
      rowOf "name" "regex" "12", rowOf "age" "mod" "4,1", rowOf "name" "size" "x",
      rowOf "name" "size" "3", rowOf "age" "exists" "maybe"]
    let selector : Members :=
      [("age", .record [("$gt", .int 20),
          ("$in", .array [.int 1, .str "b", .int 3]),
          ("$mod", .array [.int 4, .int 1]), ("$exists", .bool false)]),
        ("name", .record [("$regex", .str "12"), ("$size", .int 3)])]
    (∀ v ∈ rows, ∀ row, Row.ofValue v = .ok row → row.operator ≠ equality) ∧
      buildSelector rows = .ok selector ∧ IsWellTyped selector := by
  intro rows selector
  have hops : ∀ v ∈ rows, ∀ row, Row.ofValue v = .ok row → row.operator ≠ equality := by
    refine forall_row_of_exists ?_
    simp only [rows, List.forall_mem_cons]
    exact ⟨⟨_, rfl, by decide⟩, ⟨_, rfl, by decide⟩, ⟨_, rfl, by decide⟩, ⟨_, rfl, by decide⟩,
      ⟨_, rfl, by decide⟩, ⟨_, rfl, by decide⟩, ⟨_, rfl, by decide⟩, List.forall_mem_nil _⟩
  have hbuild : buildSelector rows = .ok selector := rfl
  exact ⟨hops, hbuild, isWellTyped_buildSelector hops hbuild⟩

end DocView.Query
