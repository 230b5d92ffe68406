import DocView.Filter.Condition
import DocView.Proofs.Binary64.Place
import DocView.Sorting.Comparison

/-!
# Numbers in filters and in sorting

A condition and a sort key read numbers along different ways. Sorting coerces both values and
compares the places of the results. A condition converts both values first, puts the numbers in
their place, and then compares whatever it has as it would compare any two values; nothing there
knows any more that they were meant to be numbers. The two ways meet again because what comes out
of a coercion has a place: an infinity or a NaN is never a number, and a text that is read as an
integer is not read as a double, so nothing is rounded on one way that is exact on the other.

A condition that names no field is the exception. It passes every document, even one that has a
field of the empty name.

## Main definitions

* `Operator.admits?` - the orderings that an operator of comparison asks for

## Main results

* `Number.place?_toValue` - a number that was coerced has a place
* `Filter.evaluate_number` - comparing converted numbers is comparing places
* `Condition.accepts_number` - conditions on numbers agree with the order of sorting
-/

namespace DocView

/-- The orderings of field value and filter value that satisfy an operator, if it compares two
values. -/
def Operator.admits? : Operator → Option (Ordering → Bool)
  | .lessThan => some (· == .lt)
  | .lessThanOrEqual => some (· != .gt)
  | .greaterThan => some (· == .gt)
  | .greaterThanOrEqual => some (· != .lt)
  | .equals => some (· == .eq)
  | _ => none

/-! ### Numbers and their places -/

theorem Binary64.Place.beq_eq_compare (p q : Place) : (p == q) = (p.compare q == .eq) := by
  cases p <;> cases q
  case at.at m n =>
    by_cases hmn : m < n
    · simp [compare, lt, hmn, Int.ne_of_lt hmn]
    · by_cases hnm : n < m
      · simp [compare, lt, hmn, hnm, Int.ne_of_gt hnm]
      · obtain rfl : m = n := Int.le_antisymm (Int.not_lt.mp hnm) (Int.not_lt.mp hmn)
        simp [compare, lt]
  all_goals rfl

theorem Number.isFinite_of_ofFloat? {x : Binary64} {n : Number} (h : ofFloat? x = some n) :
    n = .float x ∧ x.isFinite = true := by
  unfold ofFloat? at h
  split at h
  next hfinite => exact ⟨(Option.some.inj h).symm, hfinite⟩
  next => cases h

/-- The doubles among the coerced numbers are finite. -/
theorem isFinite_of_coerceNumber {v : Value} {x : Binary64} (h : coerceNumber v = some (.float x)) :
    x.isFinite = true := by
  cases v with
  | float y =>
    obtain ⟨heq, hfinite⟩ := Number.isFinite_of_ofFloat? h
    exact Number.float.inj heq ▸ hfinite
  | str s =>
    change Number.ofText? s = some (.float x) at h
    unfold Number.ofText? at h
    dsimp only at h
    split at h
    · cases h
    · split at h
      · cases h
      · obtain ⟨y, -, hy⟩ := Option.bind_eq_some_iff.mp h
        obtain ⟨heq, hfinite⟩ := Number.isFinite_of_ofFloat? hy
        exact Number.float.inj heq ▸ hfinite
  | int n => cases h
  | _ => cases h

/-- **A number that was coerced has a place.** -/
theorem Number.place?_toValue {v : Value} {n : Number} (h : coerceNumber v = some n) :
    n.toValue.place? = some (some n.place) := by
  cases n with
  | int n => rfl
  | float x =>
    exact congrArg some (Binary64.place?_of_isFinite (isFinite_of_coerceNumber h))

section

variable {a b : Value} {m n : Number}

theorem Value.holds?_number (ha : coerceNumber a = some m) (hb : coerceNumber b = some n)
    (r : Relation) : Value.holds? r m.toValue n.toValue = some (r.accepts (m.compare n)) := by
  have hm := Number.place?_toValue ha
  have hn := Number.place?_toValue hb
  cases m <;> cases n <;> simp_all [Number.toValue, Value.holds?, Number.compare]

theorem Value.strictlyEqual_number (ha : coerceNumber a = some m) (hb : coerceNumber b = some n) :
    m.toValue.strictlyEqual n.toValue = (m.compare n == .eq) := by
  have hm := Number.place?_toValue ha
  have hn := Number.place?_toValue hb
  have hsame : m.toValue.samePlace n.toValue = (m.compare n == .eq) := by
    simp only [Value.samePlace, hm, hn, Number.compare, Binary64.Place.beq_eq_compare]
  rw [← hsame]
  cases m <;> cases n <;> rfl

/-- Values that are numbers are sorted as such. -/
theorem compareValues_number (ha : coerceNumber a = some m) (hb : coerceNumber b = some n) :
    compareValues .number a b = m.compare n := by
  have hnull : ∀ {v : Value} {k : Number}, coerceNumber v = some k → v.isNull = false := by
    intro v k h
    cases v <;> first | rfl | cases h
  have hpresent : comparePresent .number a b
      = compareCoerced Number.compare (coerceNumber a) (coerceNumber b) := rfl
  simp only [compareValues, hnull ha, hnull hb, hpresent, ha, hb, compareCoerced]

end

/-! ### Conversion -/

namespace Filter

theorem isBlank_of_coerceNumber {v : Value} {n : Number} (h : coerceNumber v = some n) :
    v.isBlank = false := by
  cases v with
  | str s =>
    -- The empty text is no number.
    refine beq_eq_false_iff_ne.mpr fun hempty => ?_
    subst hempty
    cases h
  | null => cases h
  | unset => cases h
  | _ => rfl

/-- A value that is a number is converted to it. -/
theorem isBlank_toValue (n : Number) : n.toValue.isBlank = false := by
  cases n <;> rfl

theorem convert_number {v : Value} {n : Number} (h : coerceNumber v = some n) :
    convert .number v = n.toValue := by
  simp [convert, isBlank_of_coerceNumber h, h]

/-- What is no number stays as it is. -/
theorem convert_raw {v : Value} (h : coerceNumber v = none) : convert .number v = v := by
  simp [convert, h]

theorem prepareFilterValue_number {op : Operator} {b : Value} {n : Number}
    (hop : op.takesList = false) (hb : coerceNumber b = some n) :
    prepareFilterValue .number (some op) b = n.toValue := by
  have hconvert := convert_number hb
  have hblank := isBlank_of_coerceNumber hb
  have harray : (FieldType.number == FieldType.array) = false := rfl
  simp only [prepareFilterValue, hblank, Option.any_some, hop, harray, Bool.false_and,
    Bool.or_self, Bool.false_eq_true, if_false]
  cases b with
  | list => cases hb
  | _ => exact hconvert

theorem prepareFilterValue_inRange {form : Form} {low high : Value} {l h : Number}
    (hlow : coerceNumber low = some l) (hhigh : coerceNumber high = some h) :
    prepareFilterValue .number (some .inRange) (.list form [low, high])
      = .array [l.toValue, h.toValue] := by
  have hlist : prepareFilterValue .number (some .inRange) (.list form [low, high])
      = .array [convert .number low, convert .number high] := rfl
  rw [hlist, convert_number hlow, convert_number hhigh]

/-! ### Evaluation -/

section

variable {a b low high : Value} {m n l h : Number}

/-- **Comparing converted numbers is comparing places.** -/
theorem evaluate_number {op : Operator} {admits : Ordering → Bool}
    (hop : op.admits? = some admits) (ha : coerceNumber a = some m)
    (hb : coerceNumber b = some n) :
    evaluate m.toValue (some op) n.toValue = .ok (admits (m.compare n)) := by
  have hevaluate : evaluate m.toValue (some op) n.toValue
      = if op.isNullCheck then .ok (if op.holdsOfNull then false else true)
        else compare m.toValue op n.toValue := by
    cases m <;> cases n <;> rfl
  rw [hevaluate]
  cases op with
  | equals =>
    cases hop
    exact congrArg Except.ok (Value.strictlyEqual_number ha hb)
  | lessThan | lessThanOrEqual | greaterThan | greaterThanOrEqual =>
    cases hop
    simp only [Operator.isNullCheck, Bool.false_eq_true, if_false, compare, related,
      Value.holds?_number ha hb, Option.getD_some]
    cases m.compare n <;> rfl
  | _ => cases hop

/-- A number lies in a range if it is not before the one bound and not after the other. -/
theorem evaluate_number_inRange (ha : coerceNumber a = some m) (hlow : coerceNumber low = some l)
    (hhigh : coerceNumber high = some h) :
    evaluate m.toValue (some .inRange) (.array [l.toValue, h.toValue])
      = .ok (m.compare l != .lt && m.compare h != .gt) := by
  have hevaluate : evaluate m.toValue (some .inRange) (.array [l.toValue, h.toValue])
      = .ok (inRange m.toValue l.toValue h.toValue) := by
    cases m <;> rfl
  rw [hevaluate]
  simp only [inRange, isBlank_toValue, Bool.false_eq_true, if_false, Value.holds?_number ha hlow,
    Value.holds?_number ha hhigh]
  cases m.compare l <;> cases m.compare h <;> rfl

end

end Filter

/-! ### Conditions -/

namespace Condition

/-- A condition that names a field and has a value tests the field. -/
theorem accepts_eq_evaluate {c : Condition} {document a : Value}
    (hfield : c.field.truthy = true) (hvalue : c.value.isUnset = false)
    (hreads : Document.field document c.field = .ok a) :
    c.accepts document = Filter.evaluate (Filter.prepareFieldValue c.type a) c.operator?
      (Filter.prepareFilterValue c.type c.operator? c.value) := by
  simp only [accepts, isVacuous, hfield, hvalue, hreads, Bool.not_true, Bool.or_self,
    Bool.false_eq_true, if_false]
  rfl

/-- **Conditions on numbers agree with the order of sorting.** Let a condition on numbers
name a field, and let a document have a number there: an integer, a finite double, or a text that
is one. If the value of the condition is a number, then an operator of comparison, however it is
spelled, is satisfied by exactly the orderings of the two that it asks for. If the value is a pair
of numbers, then a range is satisfied if the field is not before the first and not after the
second. In no case does the test fail. -/
theorem accepts_number {field operator document a : Value} (hfield : field.truthy = true)
    (hreads : Document.field document field = .ok a) (ha : (coerceNumber a).isSome) :
    (∀ op admits b, Operator.ofValue? operator = some op → op.admits? = some admits →
      (coerceNumber b).isSome →
      accepts ⟨field, operator, b, .number⟩ document
        = .ok (admits (compareValues .number a b))) ∧
    ∀ form low high, Operator.ofValue? operator = some .inRange → (coerceNumber low).isSome →
      (coerceNumber high).isSome →
      accepts ⟨field, operator, .list form [low, high], .number⟩ document
        = .ok (compareValues .number a low != .lt && compareValues .number a high != .gt) := by
  obtain ⟨m, hm⟩ := Option.isSome_iff_exists.mp ha
  have hprepared : Filter.prepareFieldValue .number a = m.toValue := Filter.convert_number hm
  constructor
  · intro op admits b hop hadmits hb
    obtain ⟨n, hn⟩ := Option.isSome_iff_exists.mp hb
    have hvalue : b.isUnset = false := by
      cases b <;> first | rfl | cases hn
    have htakes : op.takesList = false := by
      cases op <;> first | rfl | cases hadmits
    rw [accepts_eq_evaluate hfield hvalue hreads]
    simp only [operator?, hop, hprepared, Filter.prepareFilterValue_number htakes hn,
      Filter.evaluate_number hadmits hm hn, compareValues_number hm hn]
  · intro form low high hop hlow hhigh
    obtain ⟨l, hl⟩ := Option.isSome_iff_exists.mp hlow
    obtain ⟨h, hh⟩ := Option.isSome_iff_exists.mp hhigh
    rw [accepts_eq_evaluate hfield rfl hreads]
    simp only [operator?, hop, hprepared, Filter.prepareFilterValue_inRange hl hh,
      Filter.evaluate_number_inRange hm hl hh, compareValues_number hm hl,
      compareValues_number hm hh]

/-- A text of digits of another script, one more than a double that is too large to have a
neighbour at that distance: rounding would make them equal. -/
theorem accepts_number_exact :
    (Value.str "size").truthy = true ∧
    Document.field (.record [("size", .str " ٩٠٠٧١٩٩٢٥٤٧٤٠٩٩٣ ")]) (.str "size")
      = .ok (.str " ٩٠٠٧١٩٩٢٥٤٧٤٠٩٩٣ ") ∧
    (coerceNumber (.str " ٩٠٠٧١٩٩٢٥٤٧٤٠٩٩٣ ")).isSome ∧
    accepts ⟨.str "size", .str "$gt", .float ⟨0x4340000000000000⟩, .number⟩
      (.record [("size", .str " ٩٠٠٧١٩٩٢٥٤٧٤٠٩٩٣ ")]) = .ok true := by
  have hfield : (Value.str "size").truthy = true := by decide
  have hreads : Document.field (.record [("size", .str " ٩٠٠٧١٩٩٢٥٤٧٤٠٩٩٣ ")]) (.str "size")
      = .ok (.str " ٩٠٠٧١٩٩٢٥٤٧٤٠٩٩٣ ") := rfl
  have hnumber : coerceNumber (.str " ٩٠٠٧١٩٩٢٥٤٧٤٠٩٩٣ ") = some (.int 9007199254740993) := by
    decide +kernel
  have ha : (coerceNumber (.str " ٩٠٠٧١٩٩٢٥٤٧٤٠٩٩٣ ")).isSome := by rw [hnumber]; rfl
  have hfloat : coerceNumber (.float ⟨0x4340000000000000⟩)
      = some (.float ⟨0x4340000000000000⟩) := by decide +kernel
  have hop : Operator.ofValue? (.str "$gt") = some .greaterThan := by decide +kernel
  have haccepts := (accepts_number hfield hreads ha).1 .greaterThan _
    (.float ⟨0x4340000000000000⟩) hop rfl (by rw [hfloat]; rfl)
  rw [compareValues_number hnumber hfloat] at haccepts
  have hafter : (Number.compare (.int 9007199254740993) (.float ⟨0x4340000000000000⟩) == .gt)
      = true := by decide +kernel
  exact ⟨hfield, hreads, ha, haccepts.trans (congrArg Except.ok hafter)⟩

/-- A condition without a field passes a document whose field of the empty name is five, and five
is not less than one. -/
theorem not_accepts_number_emptyName :
    ¬ ∀ field operator a b document : Value, Document.field document field = .ok a →
      (coerceNumber a).isSome → (coerceNumber b).isSome →
      Operator.ofValue? operator = some .lessThan →
      accepts ⟨field, operator, b, .number⟩ document
        = .ok (compareValues .number a b == .lt) := by
  intro h
  have hop : Operator.ofValue? (.str "lessThan") = some .lessThan := by decide +kernel
  have hafter : compareValues .number (.int 5) (.int 1) = .gt := by decide +kernel
  have hfive := h (.str "") (.str "lessThan") (.int 5) (.int 1) (.record [("", .int 5)])
    rfl rfl rfl hop
  rw [hafter] at hfive
  cases hfive

end Condition

end DocView
