import DocView.Proofs.Query.Conjunction
import DocView.Proofs.Query.Untrusted
import DocView.Proofs.Text.Case

/-!
# Where a built query may fail in a coercion

The rows and the limit of a query builder are texts that somebody has typed. Most coercions take
any text, so a row with one of most operators cannot fail. A size and the two parts of a remainder
have to be integers, and so has a limit unless it is one of the words for no limit. In these places
a text is refused that starts with more digits than an integer text may have, and nowhere else.

No word for no limit is as long as such a text, so whether a limit is refused does not depend on
the words.

## Main definitions

* `Query.TextRow`, `Query.TextRow.IsRefused`

## Main results

* `Query.resolve_eq_error_iff`
* `Query.buildSelector_textRows`
* `Query.coercion_failures`
-/

namespace DocView

variable {s : String} {count : Nat} {e : Error}

namespace Query

/-! ### Limits -/

/-- The words for no limit are short, and a text does not get shorter in lower case. -/
theorem not_mem_unboundedWords (h : IsOverlongInteger (.str s) count) :
    Text.lower (Text.strip s) ∉ unboundedWords := by
  intro hmem
  have hshort : ∀ word ∈ unboundedWords, word.length ≤ Text.maxDigits := by decide
  have hword := hshort _ hmem
  have hmany := h.tooMany
  have hstrip := h.le_length_strip
  have hlower := Text.length_le_lowerFrom (Text.stripList s.toList) []
  rw [Text.lower, Text.strip, String.toList_ofList, String.length_ofList] at hword
  omega

/-- **A limit is refused exactly if it is refused as an integer.** -/
theorem resolve_eq_error_iff {limits : Limits} {requested : Value} :
    limits.resolve requested = .error e ↔ coerceInteger requested = .error e := by
  unfold Limits.resolve
  split
  next => exact ⟨nofun, nofun⟩
  next => exact ⟨nofun, nofun⟩
  next s =>
    split
    next hword =>
      refine ⟨nofun, fun h => ?_⟩
      obtain ⟨count, hrefused, -⟩ := coerceInteger_eq_error_iff.mp h
      exact absurd (List.contains_iff_mem.mp hword) (not_mem_unboundedWords hrefused)
    next => exact limitOr_eq_error_iff
  next => exact limitOr_eq_error_iff

/-! ### Rows -/

/-- **Only two operators can fail in a coercion**, those that take integers. -/
theorem Row.entry?_eq_error_iff {row : Row} : row.entry? = .error e ↔
    (row.operator = "$mod" ∧ (listed row.value).mapM coerceInteger = .error e) ∨
      (row.operator = "$size" ∧ coerceInteger row.value = .error e) := by
  by_cases hmod : row.operator = "$mod"
  · unfold entry?
    rw [hmod, if_neg (by decide), if_neg (by decide), if_neg (by decide), if_pos rfl,
      bind_eq_error]
    constructor
    · rintro (h | ⟨numbers, -, h⟩)
      · exact .inl ⟨rfl, h⟩
      · split at h <;> cases h
    · rintro (⟨-, h⟩ | ⟨h, -⟩)
      · exact .inl h
      · exact absurd h (by decide)
  by_cases hsize : row.operator = "$size"
  · unfold entry?
    rw [hsize, if_neg (by decide), if_neg (by decide), if_neg (by decide), if_neg (by decide),
      if_pos rfl, bind_eq_error]
    constructor
    · rintro (h | ⟨size, -, h⟩)
      · exact .inr ⟨rfl, h⟩
      · cases h
    · rintro (⟨h, -⟩ | ⟨-, h⟩)
      · exact absurd h (by decide)
      · exact .inl h
  · have hentry : ∃ answer, row.entry? = .ok answer := by
      unfold entry?
      rw [if_neg hmod, if_neg hsize]
      split_ifs
      · split <;> exact ⟨_, rfl⟩
      all_goals exact ⟨_, rfl⟩
    obtain ⟨answer, hanswer⟩ := hentry
    simp [hanswer, hmod, hsize]

/-- A row as it is typed. -/
structure TextRow where
  field : String
  operator : String
  value : String

namespace TextRow

/-- The row as an object. -/
def toValue (r : TextRow) : Value := rowOf r.field r.operator r.value

/-- The row asks for a size, or for a remainder, and an integer for it is refused. A row without a
field is passed over. -/
def IsRefused (r : TextRow) (count : Nat) : Prop :=
  r.field ≠ "" ∧
    ((operatorName (.str r.operator) = "$size" ∧ IsOverlongInteger (.str r.value) count) ∨
      (operatorName (.str r.operator) = "$mod" ∧
        ∃ item ∈ Text.commaItems r.value, IsOverlongInteger (.str item) count))

variable {r : TextRow}

/-- The row that its object is read as. -/
def toRow (r : TextRow) : Row := ⟨.str r.field, operatorName (.str r.operator), .str r.value⟩

theorem ofValue_toValue (r : TextRow) : Row.ofValue r.toValue = .ok r.toRow := by
  have hfield : (Value.str r.field).orElse (.str "") = .str r.field := by
    by_cases hempty : r.field = ""
    · rw [hempty]
      rfl
    · simp [Value.orElse, Value.truthy, hempty]
  show Except.ok (Row.mk ((Value.str r.field).orElse (.str "")) _ _) = _
  rw [hfield]
  rfl

/-- The text of a row that is refused is long. -/
theorem IsRefused.lt_length (h : r.IsRefused count) : Text.maxDigits < r.value.length := by
  by_contra hshort
  have hshort := Nat.not_lt.mp hshort
  obtain ⟨-, ⟨-, h⟩ | ⟨-, item, hitem, h⟩⟩ := h
  · exact not_isOverlongInteger_of_length_le hshort count h
  · have hpart := (Text.infix_of_mem_commaItems hitem).length_le
    rw [String.length_toList, String.length_toList] at hpart
    exact not_isOverlongInteger_of_length_le (hpart.trans hshort) count h

/-- What a row of texts has for its operator fails as it is read as an integer, or as two. -/
theorem entry?_toRow_eq_error_iff : r.toRow.entry? = .error e ↔
    (operatorName (.str r.operator) = "$mod" ∧
      ((Text.commaItems r.value).map .str).mapM coerceInteger = .error e) ∨
    (operatorName (.str r.operator) = "$size" ∧ coerceInteger (.str r.value) = .error e) := by
  simp only [Row.entry?_eq_error_iff, toRow, listed, Value.text]

/-- A row that fails is refused. -/
theorem isRefused_of_contribution (h : r.toRow.contribution = .error e) :
    ∃ count, r.IsRefused count ∧ e = .tooManyDigits count := by
  unfold Row.contribution at h
  split at h
  next => cases h
  next hblank =>
    have hfield : r.field ≠ "" := fun hempty =>
      hblank (by simp [toRow, Row.isBlank, Value.truthy, hempty])
    have hentry : r.toRow.entry? = .error e := by
      rcases bind_eq_error.mp h with hentry | ⟨found, -, hfound⟩
      · exact hentry
      · cases found <;> cases hfound
    rcases entry?_toRow_eq_error_iff.mp hentry with ⟨hop, hitems⟩ | ⟨hop, hvalue⟩
    · obtain ⟨v, hv, hitem⟩ := exists_error_of_mapM_eq_error hitems
      obtain ⟨item, hmem, rfl⟩ := List.mem_map.mp hv
      obtain ⟨count, hrefused, rfl⟩ := coerceInteger_eq_error_iff.mp hitem
      exact ⟨count, ⟨hfield, .inr ⟨hop, item, hmem, hrefused⟩⟩, rfl⟩
    · obtain ⟨count, hrefused, rfl⟩ := coerceInteger_eq_error_iff.mp hvalue
      exact ⟨count, ⟨hfield, .inl ⟨hop, hrefused⟩⟩, rfl⟩

/-- A row that is refused fails. -/
theorem IsRefused.contribution (h : r.IsRefused count) :
    ∃ e, r.toRow.contribution = .error e := by
  have hvalue : r.value ≠ "" := by
    intro hempty
    have hlong := h.lt_length
    rw [hempty] at hlong
    exact absurd hlong (by decide)
  obtain ⟨hfield, hrefused⟩ := h
  have hblank : r.toRow.isBlank = false := by
    simp [toRow, Row.isBlank, Value.truthy, Value.isBlank, hfield, hvalue]
  have hentry : ∃ e, r.toRow.entry? = .error e := by
    rcases hrefused with ⟨hop, hrefused⟩ | ⟨hop, item, hitem, hrefused⟩
    · refine ⟨.tooManyDigits count, entry?_toRow_eq_error_iff.mpr (.inr ⟨hop, ?_⟩)⟩
      exact coerceInteger_eq_error_iff.mpr ⟨count, hrefused, rfl⟩
    · have hfails := coerceInteger_eq_error_iff.mpr ⟨count, hrefused, rfl⟩
      cases hitems : ((Text.commaItems r.value).map .str).mapM coerceInteger with
      | error e => exact ⟨e, entry?_toRow_eq_error_iff.mpr (.inl ⟨hop, hitems⟩)⟩
      | ok numbers =>
        obtain ⟨n, hn⟩ := exists_ok_of_mapM_eq_ok hitems (.str item) (List.mem_map_of_mem hitem)
        cases hn.symm.trans hfails
  obtain ⟨e, he⟩ := hentry
  exact ⟨e, by rw [Row.contribution, hblank, if_neg Bool.false_ne_true, he]; rfl⟩

end TextRow

/-! ### Selectors -/

theorem contributions_cons (r : TextRow) (rest : List TextRow) :
    contributions ((r :: rest).map TextRow.toValue) = (do
      let found ← r.toRow.contribution
      let others ← contributions (rest.map TextRow.toValue)
      .ok (found.toList ++ others)) := by
  rw [List.map_cons, contributions, r.ofValue_toValue]
  rfl

/-- Rows that fail have one among them that is refused. -/
theorem isRefused_of_contributions {rows : List TextRow}
    (h : contributions (rows.map TextRow.toValue) = .error e) :
    ∃ r ∈ rows, ∃ count, r.IsRefused count ∧ e = .tooManyDigits count := by
  induction rows with
  | nil => cases h
  | cons r rest ih =>
    rw [contributions_cons, bind_eq_error] at h
    rcases h with hrow | ⟨found, -, h⟩
    · exact ⟨r, List.mem_cons_self, TextRow.isRefused_of_contribution hrow⟩
    · rcases bind_eq_error.mp h with hrest | ⟨others, -, h⟩
      · obtain ⟨r', hr', hrefused⟩ := ih hrest
        exact ⟨r', List.mem_cons_of_mem r hr', hrefused⟩
      · cases h

/-- Rows that do not fail have none. -/
theorem not_isRefused_of_contributions {rows : List TextRow} {entries : List (String × Value)}
    (h : contributions (rows.map TextRow.toValue) = .ok entries) :
    ∀ r ∈ rows, ∀ count, ¬ r.IsRefused count := by
  induction rows generalizing entries with
  | nil => exact List.forall_mem_nil _
  | cons r rest ih =>
    rw [contributions_cons] at h
    obtain ⟨found, hrow, h⟩ := bind_eq_ok.mp h
    obtain ⟨others, hrest, -⟩ := bind_eq_ok.mp h
    refine List.forall_mem_cons.mpr ⟨fun count hrefused => ?_, ih hrest⟩
    obtain ⟨e, he⟩ := hrefused.contribution
    cases he.symm.trans hrow

/-- **Rows of texts build a selector unless one of them is refused**, and then they fail for the
digits of one that is. -/
theorem buildSelector_textRows (rows : List TextRow) :
    (∀ e, buildSelector (rows.map TextRow.toValue) = .error e →
      ∃ r ∈ rows, ∃ count, r.IsRefused count ∧ e = .tooManyDigits count) ∧
    ((∃ selector, buildSelector (rows.map TextRow.toValue) = .ok selector) ↔
      ∀ r ∈ rows, ∀ count, ¬ r.IsRefused count) := by
  rw [buildSelector_eq]
  cases h : contributions (rows.map TextRow.toValue) with
  | error e =>
    obtain ⟨r, hr, count, hrefused, heq⟩ := isRefused_of_contributions h
    refine ⟨fun e' he' => ?_, fun hanswer => ?_, fun hnone => absurd hrefused (hnone r hr count)⟩
    · obtain rfl := Except.error.inj he'
      exact ⟨r, hr, count, hrefused, heq⟩
    · obtain ⟨selector, hselector⟩ := hanswer
      cases hselector
  | ok entries =>
    exact ⟨fun e he => (by cases he), fun _ => not_isRefused_of_contributions h,
      fun _ => ⟨_, rfl⟩⟩

/-! ### All coercions -/

/-- **What can fail in a coercion.** Whatever the value, a number that is found is finite, a truth
value is found if the value is a number or a word for one, and a moment that is found is one of the
calendar, with its distance from universal time. As an integer, a value is refused if it is a text
that starts with too many digits, and for no other reason; any other text is the integer that it
starts with, or none. A limit is refused exactly if it is refused as an integer, and rows of texts
exactly if one of them asks for a size or a remainder and an integer for it is refused. -/
theorem coercion_failures (v : Value) (limits : Limits) (rows : List TextRow) :
    (∀ x, coerceNumber v = some (.float x) → x.isFinite) ∧
    ((coerceBoolean v).isSome ↔ v.place?.isSome ∨
      ∃ s, v = .str s ∧ Text.lower (Text.strip s) ∈ trueTexts ++ falseTexts) ∧
    (v.HasProperTime → ∀ m, coerceDate v = some m → m.IsProper ∧ m.isLocal = false) ∧
    (∀ e, coerceInteger v = .error e ↔
      ∃ count, IsOverlongInteger v count ∧ e = .tooManyDigits count) ∧
    ((∃ answer, coerceInteger v = .ok answer) ↔ ∀ count, ¬ IsOverlongInteger v count) ∧
    (∀ s, v = .str s → ReadsAsInteger s (coerceInteger v)) ∧
    (∀ e, limits.resolve v = .error e ↔ coerceInteger v = .error e) ∧
    (∀ e, buildSelector (rows.map TextRow.toValue) = .error e →
      ∃ r ∈ rows, ∃ count, r.IsRefused count ∧ e = .tooManyDigits count) ∧
    ((∃ selector, buildSelector (rows.map TextRow.toValue) = .ok selector) ↔
      ∀ r ∈ rows, ∀ count, ¬ r.IsRefused count) := by
  refine ⟨fun x => isFinite_of_coerceNumber, isSome_coerceBoolean_iff,
    fun hv m => isProper_of_coerceDate hv, fun e => coerceInteger_eq_error_iff,
    exists_coerceInteger_iff, fun s hs => ?_, fun e => resolve_eq_error_iff,
    buildSelector_textRows rows⟩
  rw [hs]
  exact readsAsInteger_coerceInteger s

/-- A size and a remainder that only start with integers, and a limit that does. -/
theorem coercion_failures_rows :
    let rows : List TextRow := [⟨"tags", "size", "3 items"⟩, ⟨"age", "mod", "4, 1x"⟩]
    (∀ r ∈ rows, ∀ count, ¬ r.IsRefused count) ∧
      (∃ selector, buildSelector (rows.map TextRow.toValue) = .ok selector) ∧
      ∀ e, Limits.standard.resolve (.str "5 rows") ≠ .error e := by
  intro rows
  have hkept : ∀ r ∈ rows, ∀ count, ¬ r.IsRefused count := by
    have hshort : ∀ r ∈ rows, r.value.length ≤ Text.maxDigits := by decide
    exact fun r hr count hrefused => absurd hrefused.lt_length (Nat.not_lt.mpr (hshort r hr))
  obtain ⟨-, -, -, hinteger, -, -, hlimit, -, hrows⟩ :=
    coercion_failures (.str "5 rows") Limits.standard rows
  refine ⟨hkept, hrows.mpr hkept, fun e he => ?_⟩
  obtain ⟨count, hrefused, -⟩ := (hinteger e).mp ((hlimit e).mp he)
  exact not_isOverlongInteger_of_length_le (by decide) count hrefused

/-- A text of one digit too many: it has no answer as an integer, and neither has a limit or a size
for which it was typed. -/
theorem coerceInteger_ones :
    let s := String.ofList (List.replicate 4301 '1')
    coerceInteger (.str s) = .error (.tooManyDigits 4301) ∧
      (¬ ∃ answer, coerceInteger (.str s) = .ok answer) ∧
      Limits.standard.resolve (.str s) = .error (.tooManyDigits 4301) ∧
      ¬ ∃ selector, buildSelector [TextRow.toValue ⟨"tags", "size", s⟩] = .ok selector := by
  intro s
  have hdigits : ∀ d ∈ List.replicate 4301 '1', Text.isDigit d = true := fun d hd =>
    List.eq_of_mem_replicate hd ▸ rfl
  have hstarts : Text.StartsWithInteger s false (List.replicate 4301 '1') := by
    refine ⟨⟨[], [], [], ?_, List.forall_mem_nil _, by decide, rfl, nofun⟩, hdigits, ?_⟩
    · simp only [s, String.toList_ofList, List.nil_append, List.append_nil]
    · exact List.replicate_succ_ne_nil
  have hrefused : IsOverlongInteger (.str s) 4301 :=
    ⟨s, false, _, rfl, hstarts, List.length_replicate, by decide⟩
  -- What follows is so of every text that is refused.
  clear_value s
  have hinteger : coerceInteger (.str s) = .error (.tooManyDigits 4301) :=
    coerceInteger_eq_error_iff.mpr ⟨4301, hrefused, rfl⟩
  have hfield : "tags" ≠ "" := by decide
  have hsize : operatorName (.str "size") = "$size" := by decide +kernel
  refine ⟨hinteger, fun h => exists_coerceInteger_iff.mp h 4301 hrefused,
    resolve_eq_error_iff.mpr hinteger, fun h => ?_⟩
  exact (buildSelector_textRows [⟨"tags", "size", s⟩]).2.mp h _ (List.mem_singleton_self _) 4301
    ⟨hfield, .inl ⟨hsize, hrefused⟩⟩

end Query

end DocView
