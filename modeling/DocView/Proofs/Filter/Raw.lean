import DocView.Proofs.Filter.Number
import DocView.Proofs.Filter.Range

/-!
# Conditions on numbers where there is no number

Sorting has a class of its own for what does not coerce to a number, below all numbers. A condition
has none: a field value that does not coerce is compared as it came, with a number on the other
side. For most kinds of values that makes no difference, since a number has no order with what is
none. But coercion and order do not mean the same by a number. Truth values and infinities are
refused by the one and have a place in the other, a truth value that of zero or one and an infinity
beyond every number, and there a condition on numbers may well accept them.

A NaN is refused by coercion too and has no place, so that no comparison accepts it. Ranges are a
different matter, as values are adrift from every number if they have no place.

## Main definitions

* `Value.standsRaw` - the relations to a number of a value that is none

## Main results

* `Filter.related_raw` - the order has these relations
* `Condition.accepts_raw` - conditions on numbers where there is no number
-/

namespace DocView

/-- Whether a value that is no number stands in a relation to one: a truth value as zero or one,
an infinity before or after every number. -/
def Value.standsRaw (r : Relation) (n : Number) : Value → Bool
  | .bool b => r.accepts ((Number.int (if b then 1 else 0)).compare n)
  | .float x => x.isInfinite && r.accepts (if x.negative then .lt else .gt)
  | _ => false

/-! ### Places -/

theorem Binary64.place?_of_isInfinite {x : Binary64} (hinfinite : x.isInfinite = true) :
    x.place? = some (if x.negative then .below else .above) := by
  have hnan : x.isNaN = false := by
    cases hx : x.isNaN with
    | false => rfl
    | true => exact absurd hinfinite (by simp [isInfinite_of_isNaN hx])
  rw [place?, hnan, hinfinite]
  rfl

/-- A number is neither before nor after all numbers. -/
theorem Number.exists_place (n : Number) : ∃ units, n.place = .at units := by
  cases n with
  | int k => exact ⟨k * Binary64.unitsPerOne, rfl⟩
  | float x => exact ⟨x.units, rfl⟩

namespace Filter

variable {v b low high : Value} {n l h : Number}

/-! ### Evaluation -/

/-- **The order of a value that is no number with one.** -/
theorem related_raw (hv : coerceNumber v = none) (hb : coerceNumber b = some n) (r : Relation) :
    related r v n.toValue = v.standsRaw r n := by
  have hn := Number.place?_toValue hb
  cases v with
  | int k => cases hv
  | bool x =>
    rw [related, Value.holds?_of_places rfl hn]
    rfl
  | float x =>
    have hfinite : x.isFinite = false := by
      have hx : Number.ofFloat? x = none := hv
      simpa [Number.ofFloat?] using hx
    cases hnan : x.isNaN with
    | true =>
      have hplace : (Value.float x).place? = some none := by
        simp [Value.place?, Binary64.place?, hnan]
      rw [related, Value.adrift_of_place? hplace hn (.inl rfl), Value.standsRaw,
        Binary64.isInfinite_of_isNaN hnan]
      rfl
    | false =>
      have hinfinite := Binary64.isInfinite_of_not_finite hfinite hnan
      have hplace : (Value.float x).place? = some (some (if x.negative then .below else .above)) :=
        congrArg some (Binary64.place?_of_isInfinite hinfinite)
      obtain ⟨units, hunits⟩ := n.exists_place
      rw [related, Value.holds?_of_places hplace hn, Value.standsRaw, hinfinite, hunits]
      cases x.negative <;> rfl
  | _ =>
    rw [related, Value.holds?_of_no_place (by rw [hn]; exact Bool.false_ne_true)]
    rfl

/-- Only a NaN is adrift from a number. -/
theorem not_adrift_number (hv : ∀ x, v = .float x → x.isNaN = false)
    (hb : coerceNumber b = some n) : ¬ v.Adrift n.toValue := by
  have hn := Number.place?_toValue hb
  cases hplace : v.place? with
  | none =>
    exact Value.not_adrift_of_unordered (Value.holds?_of_no_place (by simp [hplace, hn]))
  | some p =>
    rw [Value.adrift_iff_of_place? hplace hn]
    rintro (rfl | hnone)
    · cases Value.hasNaN_of_place? hplace with
      | float hnan => exact absurd hnan (by simp [hv _ rfl])
      | item => cases hplace
    · cases hnone

/-- A range of numbers takes a value that is no number and no NaN if it stands in the right
relations to them. -/
theorem inRange_raw (hv : coerceNumber v = none) (hnan : ∀ x, v = .float x → x.isNaN = false)
    (hlow : coerceNumber low = some l) (hhigh : coerceNumber high = some h) :
    inRange v l.toValue h.toValue
      = (v.standsRaw .greaterOrEqual l && v.standsRaw .lessOrEqual h) := by
  have hkept : ¬ Escapes v l.toValue h.toValue := by
    rintro (⟨hadrift, -⟩ | ⟨-, hadrift⟩)
    · exact not_adrift_number hnan hlow hadrift
    · exact not_adrift_number hnan hhigh hadrift
  rw [(inRange_eq_iff (isBlank_toValue l) (isBlank_toValue h)).mpr hkept, related_raw hv hlow,
    related_raw hv hhigh]

end Filter

/-! ### Conditions -/

namespace Condition

/-- **Conditions on numbers where there is no number.** Let a condition on numbers name a field,
and let a document have a value there that is no number. If the value of the condition is a number,
then an operator of order, however it is spelled, is satisfied by a truth value as it is by zero or
one, by an infinity as it is by something beyond all numbers, and by nothing else. If the value is
a pair of numbers and the field no NaN, then a range is satisfied by what is at or after the first
and at or before the second in this sense. In no case does the test fail. -/
theorem accepts_raw {field operator document a : Value} (hfield : field.truthy = true)
    (hreads : Document.field document field = .ok a) (ha : coerceNumber a = none) :
    (∀ op r b n, Operator.ofValue? operator = some op → op.relation? = some r →
      coerceNumber b = some n →
      accepts ⟨field, operator, b, .number⟩ document = .ok (a.standsRaw r n)) ∧
    ∀ form low high l h, Operator.ofValue? operator = some .inRange →
      coerceNumber low = some l → coerceNumber high = some h →
      (∀ x, a = .float x → x.isNaN = false) →
      accepts ⟨field, operator, .list form [low, high], .number⟩ document
        = .ok (a.standsRaw .greaterOrEqual l && a.standsRaw .lessOrEqual h) := by
  have hprepared : Filter.prepareFieldValue .number a = a := Filter.convert_raw ha
  constructor
  · intro op r b n hop hr hb
    have hvalue : b.isUnset = false := by
      cases b <;> first | rfl | cases hb
    have htakes : op.takesList = false := by
      cases op <;> first | rfl | cases hr
    rw [accepts_eq_evaluate hfield hvalue hreads]
    simp only [operator?, hop, hprepared, Filter.prepareFilterValue_number htakes hb]
    rw [Filter.evaluate_relation hr (Filter.isBlank_toValue n), Filter.related_raw ha hb]
  · intro form low high l h hop hlow hhigh hnan
    rw [accepts_eq_evaluate hfield rfl hreads]
    simp only [operator?, hop, hprepared, Filter.prepareFilterValue_inRange hlow hhigh]
    rw [Filter.evaluate_inRange .plain (.inl (Filter.isBlank_toValue l)),
      Filter.inRange_raw ha hnan hlow hhigh]

/-- Text that is no number is not after five, and true is not between two and three. -/
theorem accepts_raw_text_true :
    accepts ⟨.str "size", .str "$gt", .str " 5 ", .number⟩ (.record [("size", .str "large")])
      = .ok false ∧
    accepts ⟨.str "size", .str "inRange", .array [.int 2, .str "3"], .number⟩
      (.record [("size", .bool true)]) = .ok false := by
  have hgt : Operator.ofValue? (.str "$gt") = some .greaterThan := by decide +kernel
  have hrange : Operator.ofValue? (.str "inRange") = some .inRange := by decide +kernel
  have hfive : coerceNumber (.str " 5 ") = some (.int 5) := by decide +kernel
  have hthree : coerceNumber (.str "3") = some (.int 3) := by decide +kernel
  have hlarge : coerceNumber (.str "large") = none := by decide +kernel
  have hfield : (Value.str "size").truthy = true := by decide
  have htext : Document.field (.record [("size", .str "large")]) (.str "size")
      = .ok (.str "large") := rfl
  have htruth : Document.field (.record [("size", .bool true)]) (.str "size")
      = .ok (.bool true) := rfl
  have houtside : ((Value.bool true).standsRaw .greaterOrEqual (.int 2)
      && (Value.bool true).standsRaw .lessOrEqual (.int 3)) = false := by decide +kernel
  refine ⟨(accepts_raw hfield htext hlarge).1 .greaterThan .greater _ _ hgt rfl hfive, ?_⟩
  have hbetween := (accepts_raw hfield htruth rfl).2 .plain (.int 2) (.str "3") _ _ hrange rfl
    hthree fun _ hfloat => nomatch hfloat
  exact hbetween.trans (congrArg Except.ok houtside)

/-- True is no number, and it is greater than zero. -/
theorem not_accepts_raw_true :
    ¬ ∀ field operator a b document : Value, field.truthy = true →
      Document.field document field = .ok a → coerceNumber a = none →
      (coerceNumber b).isSome → Operator.ofValue? operator = some .greaterThan →
      accepts ⟨field, operator, b, .number⟩ document = .ok false := by
  intro h
  have hop : Operator.ofValue? (.str "greaterThan") = some .greaterThan := by decide +kernel
  have hreads : Document.field (.record [("a", .bool true)]) (.str "a") = .ok (.bool true) := rfl
  have hrejects := h (.str "a") (.str "greaterThan") (.bool true) (.int 0)
    (.record [("a", .bool true)]) rfl hreads rfl rfl hop
  rw [accepts_eq_evaluate rfl rfl hreads] at hrejects
  simp only [operator?, hop] at hrejects
  have hrelated : Filter.related .greater (.bool true) (.int 0) = true := by decide +kernel
  have hafter : Filter.evaluate (.bool true) (some .greaterThan) (.int 0) = .ok true :=
    (Filter.evaluate_relation rfl rfl _).trans (congrArg Except.ok hrelated)
  cases hafter.symm.trans hrejects

end Condition

end DocView
