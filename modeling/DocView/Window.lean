import DocView.Error

/-!
# Windows

How many items of a collection are looked at: all of them if no number is given, otherwise the
first so many. A negative number, or a value that is no whole number, is no window.

## Main definitions

* `Window`, `Window.ofValue`, `Window.take`
-/

namespace DocView

/-- The first so many items, or all. -/
abbrev Window := Option Nat

namespace Window

/-- The largest size of a window. -/
def maxSize : Int := Nat.pow 2 63 - 1

/-- The window that a value gives. -/
def ofValue (v : Value) : Result Window :=
  let refused : Result Window :=
    .error (.badValue
      "Stop argument for islice() must be None or an integer: 0 <= x <= sys.maxsize.")
  match v with
  | .null => .ok none
  | .bool b => .ok (some (if b then 1 else 0))
  | .int n => if 0 ≤ n ∧ n ≤ maxSize then .ok (some n.toNat) else refused
  | _ => refused

/-- Every natural number up to the largest size is a window. -/
theorem ofValue_natCast {n : Nat} (hn : n ≤ maxSize) : ofValue (.int n) = .ok (some n) :=
  if_pos ⟨Int.natCast_nonneg n, hn⟩

/-- A larger number is refused. -/
theorem exists_ofValue_natCast {n : Nat} (hn : ¬ n ≤ maxSize) : ∃ e, ofValue (.int n) = .error e :=
  ⟨_, if_neg fun h => hn h.2⟩

/-- The items of a list that a window shows. -/
def take {α : Type} (window : Window) (items : List α) : List α :=
  match window with
  | none => items
  | some n => items.take n

end Window

end DocView
