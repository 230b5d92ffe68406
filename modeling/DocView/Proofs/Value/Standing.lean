import DocView.Value.Order

/-!
# How two values stand to each other

Four questions can be asked about the order of two values, one for each relation, and the answers
hang together. Either the kinds of the values have no order and there is no answer to any of the
four. Or the values are ordered, and the answers are those of one ordering. Or their kinds have an
order but the values are *adrift* in it, and the answer is no four times over.

The third case is that of a NaN: it is a number, so asking is no error, but it has no place among
the numbers. It sets values adrift from inside a list as well, since the order of two lists is that
of their first items that are not equal, and a NaN is equal to nothing. Where values may be adrift,
the denial of a relation is not its complement, and *not before* is weaker than *at or after*.

## Main definitions

* `Value.Adrift`, `Value.HasNaN` - values without a relation, and where they come from
* `Value.Standing` - how four answers may hang together
* `Relation.complement`

## Main results

* `Value.standing` - two values are without an order, ordered or adrift
* `Value.holds?_eq_false_iff` - what it takes to deny a relation
* `Value.holds?_of_places`, `Value.adrift_iff_of_place?` - numbers
-/

namespace DocView

/-- The relation that holds of an ordering if the given one does not. -/
def Relation.complement : Relation → Relation
  | .less => .greaterOrEqual
  | .lessOrEqual => .greater
  | .greater => .lessOrEqual
  | .greaterOrEqual => .less

theorem Relation.accepts_complement (r : Relation) (o : Ordering) :
    r.complement.accepts o = !r.accepts o := by
  cases r <;> cases o <;> rfl

namespace Value

variable {a b : Value}

/-- The kinds of the values have an order, but no relation holds of them. -/
def Adrift (a b : Value) : Prop := ∀ r, holds? r a b = some false

/-- A NaN, or a list with one in it at any depth. -/
inductive HasNaN : Value → Prop
  | float {x : Binary64} (hx : x.isNaN) : HasNaN (.float x)
  | item {form : Form} {items : List Value} {v : Value} (hv : v ∈ items) (h : HasNaN v) :
      HasNaN (.list form items)

/-- What the answers to the four questions can be: always that there is no order, always that of
one ordering, or always no, for which there is a reason. -/
inductive Standing (holds : Relation → Option Bool) (reason : Prop) : Prop
  | unordered (h : ∀ r, holds r = none)
  | ordered (o : Ordering) (h : ∀ r, holds r = some (r.accepts o))
  | adrift (h : ∀ r, holds r = some false) (hreason : reason)

/-- The same answers for another reason. -/
theorem Standing.imp {holds : Relation → Option Bool} {reason other : Prop}
    (h : Standing holds reason) (himp : reason → other) : Standing holds other := by
  cases h with
  | unordered h => exact .unordered h
  | ordered o h => exact .ordered o h
  | adrift h hreason => exact .adrift h (himp hreason)

theorem hasNaN_of_place? (h : a.place? = some none) : a.HasNaN := by
  cases a with
  | float x =>
    refine .float ?_
    have hplace : x.place? = none := Option.some.inj h
    unfold Binary64.place? at hplace
    split at hplace
    · assumption
    · split at hplace <;> cases hplace
  | _ => cases h

/-- Numbers stand in the relations of their places. -/
theorem holds?_of_places {p q : Binary64.Place} (ha : a.place? = some (some p))
    (hb : b.place? = some (some q)) (r : Relation) :
    holds? r a b = some (r.accepts (p.compare q)) := by
  cases a with
  | bool | int | float =>
    cases b with
    | bool | int | float => simp only [holds?, ha, hb]
    | _ => cases hb
  | _ => cases ha

/-- A NaN is adrift from every number. -/
theorem adrift_of_place? {p q : Option Binary64.Place} (ha : a.place? = some p)
    (hb : b.place? = some q) (h : p = none ∨ q = none) : a.Adrift b := by
  intro r
  cases a with
  | bool | int | float =>
    cases b with
    | bool | int | float =>
      simp only [holds?, ha, hb]
      rcases h with rfl | rfl
      · rfl
      · cases p <;> rfl
    | _ => cases hb
  | _ => cases ha

/-- A number has no order with what is none, on either side. -/
theorem holds?_of_no_place (h : a.place?.isSome ≠ b.place?.isSome) (r : Relation) :
    holds? r a b = none := by
  cases a <;> cases b <;> first | exact absurd rfl h | simp [holds?, place?]

theorem standing_of_place? {p : Option Binary64.Place} (ha : a.place? = some p) (b : Value) :
    Standing (holds? · a b) (a.HasNaN ∨ b.HasNaN) := by
  cases hb : b.place? with
  | none => exact .unordered (holds?_of_no_place (by simp [ha, hb]))
  | some q =>
    cases p with
    | none => exact .adrift (adrift_of_place? ha hb (.inl rfl)) (.inl (hasNaN_of_place? ha))
    | some p =>
      cases q with
      | none => exact .adrift (adrift_of_place? ha hb (.inr rfl)) (.inr (hasNaN_of_place? hb))
      | some q => exact .ordered (p.compare q) (holds?_of_places ha hb)

mutual

/-- **Two values are without an order, ordered or adrift**, and adrift only if there is a NaN. -/
theorem standing (a b : Value) : Standing (holds? · a b) (a.HasNaN ∨ b.HasNaN) := by
  cases a with
  | str s =>
    cases b with
    | str t => exact .ordered (compareText s t) fun _ => by rw [holds?]
    | _ => exact .unordered fun _ => by simp [holds?, place?]
  | bytes s =>
    cases b with
    | bytes t => exact .ordered (compare s t) fun _ => by rw [holds?]
    | _ => exact .unordered fun _ => by simp [holds?, place?]
  | date d =>
    cases b with
    | date e => exact .ordered (compare d.dayNumber e.dayNumber) fun _ => by rw [holds?]
    | _ => exact .unordered fun _ => by simp [holds?, place?]
  | moment m =>
    cases b with
    | moment n =>
      cases hkeys : m.keys? n with
      | none => exact .unordered fun _ => by rw [holds?, hkeys, Option.map_none]
      | some keys =>
        exact .ordered (compare keys.1 keys.2) fun _ => by rw [holds?, hkeys, Option.map_some]
    | _ => exact .unordered fun _ => by simp [holds?, place?]
  | list f xs =>
    cases b with
    | list g ys =>
      by_cases hform : f = g
      · simp only [holds?, if_pos hform]
        refine (standingItems xs ys).imp fun h => ?_
        rcases h with ⟨x, hx, hnan⟩ | ⟨y, hy, hnan⟩
        · exact .inl (.item hx hnan)
        · exact .inr (.item hy hnan)
      · exact .unordered fun _ => by rw [holds?, if_neg hform]
    | _ => exact .unordered fun _ => by simp [holds?, place?]
  | bool | int | float => exact standing_of_place? rfl b
  | null | unset | object => exact .unordered fun _ => by cases b <;> simp [holds?, place?]

/-- Lists stand as their first items that are not equal do. -/
theorem standingItems (xs ys : List Value) :
    Standing (itemsHold? · xs ys) ((∃ x ∈ xs, x.HasNaN) ∨ ∃ y ∈ ys, y.HasNaN) := by
  cases xs with
  | nil =>
    cases ys with
    | nil => exact .ordered .eq fun _ => by rw [itemsHold?]
    | cons y ys => exact .ordered .lt fun _ => by rw [itemsHold?]
  | cons x xs =>
    cases ys with
    | nil => exact .ordered .gt fun _ => by rw [itemsHold?]
    | cons y ys =>
      by_cases hequal : equal x y
      · simp only [itemsHold?, if_pos hequal]
        refine (standingItems xs ys).imp fun h => ?_
        rcases h with ⟨v, hv, hnan⟩ | ⟨v, hv, hnan⟩
        · exact .inl ⟨v, List.mem_cons_of_mem x hv, hnan⟩
        · exact .inr ⟨v, List.mem_cons_of_mem y hv, hnan⟩
      · simp only [itemsHold?, if_neg hequal]
        refine (standing x y).imp fun h => ?_
        rcases h with hnan | hnan
        · exact .inl ⟨x, List.mem_cons_self, hnan⟩
        · exact .inr ⟨y, List.mem_cons_self, hnan⟩

end

/-- Values that have an ordering are not adrift: one of them is not after the other. -/
theorem not_adrift_of_ordered {o : Ordering} (ho : ∀ r, holds? r a b = some (r.accepts o)) :
    ¬ a.Adrift b := by
  intro h
  have hle := Option.some.inj ((ho .lessOrEqual).symm.trans (h .lessOrEqual))
  have hge := Option.some.inj ((ho .greaterOrEqual).symm.trans (h .greaterOrEqual))
  cases o with
  | lt => cases hle
  | eq => cases hle
  | gt => cases hge

theorem not_adrift_of_unordered (hnone : ∀ r, holds? r a b = none) : ¬ a.Adrift b := by
  intro h
  cases (hnone .less).symm.trans (h .less)

/-- **A relation that does not hold**, although it could: the complement holds, or the values are
adrift. -/
theorem holds?_eq_false_iff {r : Relation} :
    holds? r a b = some false ↔ a.Adrift b ∨ holds? r.complement a b = some true := by
  cases standing a b with
  | unordered hnone =>
    have hkept := not_adrift_of_unordered hnone
    simp [hnone, hkept]
  | ordered o ho =>
    have hkept := not_adrift_of_ordered ho
    simp [ho, hkept, Relation.accepts_complement]
  | adrift hadrift => exact iff_of_true (hadrift r) (.inl hadrift)

theorem Adrift.holds?_ne (h : a.Adrift b) (r : Relation) : holds? r a b ≠ some true := by
  simp [h r]

/-- Only a NaN makes values adrift. -/
theorem Adrift.hasNaN (h : a.Adrift b) : a.HasNaN ∨ b.HasNaN := by
  cases standing a b with
  | unordered hnone => exact absurd h (not_adrift_of_unordered hnone)
  | ordered o ho => exact absurd h (not_adrift_of_ordered ho)
  | adrift _ hnan => exact hnan

/-- **Numbers are adrift exactly if one of them is a NaN.** -/
theorem adrift_iff_of_place? {p q : Option Binary64.Place} (ha : a.place? = some p)
    (hb : b.place? = some q) : a.Adrift b ↔ p = none ∨ q = none := by
  refine ⟨fun h => ?_, adrift_of_place? ha hb⟩
  cases p with
  | none => exact .inl rfl
  | some p =>
    cases q with
    | none => exact .inr rfl
    | some q => exact absurd h (not_adrift_of_ordered (holds?_of_places ha hb))

end Value

end DocView
