import DocView.Error
import DocView.Json.Writer
import DocView.Proofs.Value.Form

/-!
# Numbers that JSON has

JSON has no word for an infinity or a NaN. The readers here accept the words that are in use for
them nevertheless, so such a number can come in with a request and be kept. A value is *finite* if
there is none in it, at any depth.

## Main definitions

* `Value.IsFinite`, `Members.IsFinite`

## Main results

* `Value.isFinite_float_iff`, `Value.isFinite_list_iff`, `Value.isFinite_object_iff`
-/

namespace DocView

/-- Neither an infinity nor a NaN occurs in the value. -/
def Value.IsFinite (v : Value) : Prop := Json.hasNonFinite v = false

/-- All members are finite. -/
def Members.IsFinite (members : Members) : Prop := ∀ entry ∈ members, entry.2.IsFinite

namespace Value

variable {form : Form} {items : List Value} {members : Members} {x : Binary64}

theorem isFinite_float_iff : (Value.float x).IsFinite ↔ x.isFinite = true := by
  simp [IsFinite, Json.hasNonFinite]

theorem isFinite_eq_false_of_not (hx : ¬ (Value.float x).IsFinite) : x.isFinite = false :=
  Bool.eq_false_iff.mpr (mt isFinite_float_iff.mpr hx)

theorem isFinite_list_iff : (Value.list form items).IsFinite ↔ ∀ v ∈ items, v.IsFinite := by
  have hitems : Json.anyNonFinite items = false ↔ ∀ v ∈ items, Json.hasNonFinite v = false := by
    induction items with
    | nil => simp [Json.anyNonFinite]
    | cons v rest ih => simp [Json.anyNonFinite, ih]
  simpa [IsFinite, Json.hasNonFinite] using hitems

theorem isFinite_object_iff : (Value.object form members).IsFinite ↔ members.IsFinite := by
  have hmembers : Json.anyMemberNonFinite members = false
      ↔ ∀ entry ∈ members, Json.hasNonFinite entry.2 = false := by
    induction members with
    | nil => simp [Json.anyMemberNonFinite]
    | cons entry rest ih => simp [Json.anyMemberNonFinite, ih]
  simpa [IsFinite, Members.IsFinite, Json.hasNonFinite] using hmembers

theorem isFinite_str (s : String) : (Value.str s).IsFinite := rfl

end Value

end DocView
