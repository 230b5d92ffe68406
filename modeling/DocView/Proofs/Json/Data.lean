import DocView.Json.Reader
import DocView.Proofs.Binary64.Place
import DocView.Proofs.Json.Finite
import DocView.Proofs.Json.Numeral
import DocView.Proofs.Result
import DocView.Proofs.Value.Data
import DocView.Proofs.Value.Equality

/-!
# What the reader makes

The reader makes data, whatever the text: it has no way to write a date or a read-only list, and
the members of an object are gathered name by name. Among the data the values of JSON are those
without a NaN, so a text without one is read as a value of JSON.

More is true of the parts: the digits of an integer have been counted before it is read, so it is
never too long to be written, and the only NaN is the one that has a name. The proof follows the
recursion of the reader, and says of each part that what it answers is of this kind.

## Main definitions

* `Json.Yields` - the answers of a part of the reader have a property
* `Json.IsRead` - the values that the reader can make

## Main results

* `Json.isRead_of_read`
* `Value.IsData.isJson` - data that is finite is a value of JSON
-/

namespace DocView

/-- Data of any doubles. -/
abbrev Value.IsAnyData (v : Value) : Prop := v.IsData fun _ => True

/-- Data without infinities and NaNs is a value of JSON. -/
theorem Value.IsData.isJson {v : Value} (hv : v.IsAnyData) (hfinite : v.IsFinite) : v.isJson := by
  induction hv with
  | null | bool | int | str => rfl
  | @float x _ =>
    have hx : x.isFinite = true := isFinite_float_iff.mp hfinite
    have hexponent : x.exponentField ≠ 2047 := bne_iff_ne.mp hx
    simp [Value.isJson, Binary64.isNaN, hexponent]
  | list _ ih =>
    have hitems := isFinite_list_iff.mp hfinite
    exact isJson_list.mpr ⟨rfl, fun v hv => ih v hv (hitems v hv)⟩
  | object distinct _ ih =>
    have hmembers := isFinite_object_iff.mp hfinite
    exact isJson_object.mpr ⟨rfl, distinct, fun entry he => ih entry he (hmembers entry he)⟩

namespace Json

/-- What a part of the reader answers, if it answers, has a property. -/
def Yields {α : Type} (P : α → Prop) : Read (α × List Char) → Prop
  | .ok (a, _) => P a
  | .error _ => True

/-- A part is followed by another, which may count on the property of the first. -/
theorem Yields.bind {α β : Type} {P : α → Prop} {Q : β → Prop} {r : Read (α × List Char)}
    {f : α × List Char → Read (β × List Char)} (h : Yields P r)
    (hf : ∀ a rest, P a → Yields Q (f (a, rest))) : Yields Q (r >>= f) := by
  rcases r with _ | ⟨a, rest⟩
  · trivial
  · exact hf a rest h

/-- A value of the kind that the reader makes. -/
inductive IsRead : Value → Prop
  | null : IsRead .null
  | bool (b : Bool) : IsRead (.bool b)
  /-- Integers are short enough to be written. -/
  | int {n : Int} (short : isTooLong n = false) : IsRead (.int n)
  /-- Doubles are numbers or infinities, or the NaN that has a name. -/
  | float {x : Binary64} (named : x.isNaN = false ∨ x = .nan) : IsRead (.float x)
  | str (s : String) : IsRead (.str s)
  | list {items : List Value} (parts : ∀ v ∈ items, IsRead v) : IsRead (.list .plain items)
  | object {members : Members} (distinct : (Members.names members).Nodup)
    (parts : ∀ entry ∈ members, IsRead entry.2) : IsRead (.object .plain members)

theorem IsRead.isData {v : Value} (h : IsRead v) : v.IsAnyData := by
  induction h with
  | null => exact .null
  | bool b => exact .bool b
  | int _ => exact .int _
  | float _ => exact .float trivial
  | str s => exact .str s
  | list _ ih => exact .list ih
  | object distinct _ ih => exact .object distinct ih

/-! ### Numerals and names -/

/-- An integer that is read is short enough to be written. -/
theorem isTooLong_of_integerOfDigits {negative : Bool} {digits : List Char} {n : Int}
    (h : Text.integerOfDigits negative digits = .ok n) : isTooLong n = false := by
  unfold Text.integerOfDigits at h
  split at h
  next => cases h
  next hlength =>
    have hvalue : n.natAbs = Text.digitsValue digits := by
      rw [← Except.ok.inj h, Text.signed]
      split <;> simp
    have hsmall : Text.digitsValue digits < 10 ^ Text.maxDigits :=
      (Text.digitsValue_lt digits).trans_le
        (Nat.pow_le_pow_right (by decide) (Nat.not_lt.mp hlength))
    have hdigits := (Nat.length_toDigits_le_iff (by decide) (by decide)).mpr hsmall
    rw [isTooLong, hvalue]
    exact decide_eq_false (Nat.not_lt.mpr hdigits)

theorem yields_numeral? (start : Nat) (negative : Bool) (cs : List Char) :
    Yields IsRead (numeral? start negative cs) := by
  unfold numeral?
  split
  next => trivial
  next =>
    dsimp only
    split
    next => exact .float (.inl (Binary64.isNaN_ofDecimal _ _ _))
    next =>
      split
      next hread => exact .int (isTooLong_of_integerOfDigits hread)
      next => trivial
      next => trivial

theorem yields_scalar? (cs : List Char) : Yields IsRead (scalar? cs) := by
  unfold scalar?
  split
  next => exact .null
  next => exact .bool true
  next => exact .bool false
  next => exact .float (.inr rfl)
  next => exact .float (.inl rfl)
  next => exact .float (.inl rfl)
  next => exact yields_numeral? _ true _
  next => exact yields_numeral? _ false cs

/-! ### Values -/

/-- Every text in quotes may stand where a value is read. -/
theorem yields_text? (cs : List Char) : Yields (fun _ => True) (text? cs) := by
  rcases text? cs with _ | ⟨s, rest⟩ <;> trivial

mutual

/-- **A value that is read is of this kind.** -/
theorem yields_value? (fuel : Nat) (cs : List Char) : Yields IsRead (value? fuel cs) := by
  cases fuel with
  | zero => trivial
  | succ fuel =>
    unfold value?
    split
    next => trivial
    next rest => exact (yields_text? rest).bind fun s _ _ => .str s
    next =>
      split
      next => exact .list (List.forall_mem_nil _)
      next => exact (yields_items? fuel _).bind fun _ _ hitems => .list hitems
    next =>
      split
      next => exact .object List.nodup_nil (List.forall_mem_nil _)
      next =>
        refine (yields_members? fuel _).bind fun entries _ hentries => ?_
        exact .object (Members.nodup_ofEntries entries)
          fun entry he => hentries entry (Members.mem_of_mem_ofEntries he)
    next => exact yields_scalar? _

theorem yields_items? (fuel : Nat) (cs : List Char) :
    Yields (fun vs : List Value => ∀ v ∈ vs, IsRead v) (items? fuel cs) := by
  cases fuel with
  | zero => trivial
  | succ fuel =>
    unfold items?
    refine (yields_value? fuel cs).bind fun v rest hv => ?_
    dsimp only
    split
    next => exact List.forall_mem_singleton.mpr hv
    next =>
      refine (yields_items? fuel _).bind fun vs _ hvs => ?_
      exact List.forall_mem_cons.mpr ⟨hv, hvs⟩
    next => trivial

theorem yields_members? (fuel : Nat) (cs : List Char) :
    Yields (fun entries : Members => ∀ entry ∈ entries, IsRead entry.2) (members? fuel cs) := by
  cases fuel with
  | zero => trivial
  | succ fuel =>
    unfold members?
    split
    next rest =>
      refine (yields_text? rest).bind fun name rest _ => ?_
      dsimp only
      split
      next =>
        refine (yields_value? fuel _).bind fun v rest hv => ?_
        dsimp only
        split
        next => exact List.forall_mem_singleton.mpr hv
        next =>
          refine (yields_members? fuel _).bind fun entries _ hentries => ?_
          exact List.forall_mem_cons.mpr ⟨hv, hentries⟩
        next => trivial
      next => trivial
    next => trivial

end

/-- **A text is read as a value of this kind.** -/
theorem isRead_of_read {s : String} {v : Value} (h : read s = .ok v) : IsRead v := by
  have hchars : readChars s.toList = .ok v := by
    unfold read at h
    dsimp only at h
    split at h
    next heq => cases h; exact heq
    next => cases h
    next => cases h
  unfold readChars at hchars
  split at hchars
  next => cases hchars
  next =>
    obtain ⟨⟨w, rest⟩, hvalue, hend⟩ := bind_eq_ok.mp hchars
    have hparts := yields_value? (2 * s.toList.length + 2) (skipSpace s.toList)
    rw [hvalue] at hparts
    dsimp only at hend
    split at hend
    next => cases hend; exact hparts
    next => cases hend

end Json

end DocView
