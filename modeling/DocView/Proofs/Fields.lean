import DocView.Fields
import DocView.Proofs.Result
import Mathlib.Data.List.Sort
import Mathlib.Data.String.Basic

/-!
# What field discovery finds

The fields of a collection are a set: what is found is the list of its names, in ascending order and
each once. A list in strictly ascending order is determined by what is in it, so it is enough to know
when a name is found. Neither the order of the documents nor how often one of them occurs can matter
then, as long as all of them are looked at.

A name is found if it is a name at the top level of some document that is looked at and is not
internal. Documents that are no objects have no names, and rows have those of the document that they
carry: both are a matter of the body alone.

## Main definitions

* `Fields.IsHidden` - names that are internal under a prefix
* `Fields.IsUserFields` - the list of the fields that are not internal

## Main results

* `Fields.pairwise_sortNames`, `Fields.mem_sortNames` - sorting without repetition
* `Fields.IsUserFields.eq_of_mem_iff` - the list is determined by the documents
* `Fields.user_isUserFields` - what discovery answers
-/

namespace DocView.Fields

variable {name n : String} {ns : List String} {docs docs' : List Value} {start : String}

/-! ### Sorting without repetition -/

theorem mem_insertName : n ∈ insertName name ns ↔ n = name ∨ n ∈ ns := by
  induction ns with
  | nil => rw [insertName, List.mem_singleton, or_iff_left (List.not_mem_nil)]
  | cons first rest ih =>
    rw [insertName]
    split_ifs with hlt heq
    · rw [List.mem_cons]
    · rw [heq, List.mem_cons, or_self_left]
    · rw [List.mem_cons, ih, List.mem_cons, or_left_comm]

/-- A name goes into an ascending list at its place. -/
theorem pairwise_insertName (h : ns.Pairwise (· < ·)) : (insertName name ns).Pairwise (· < ·) := by
  induction ns with
  | nil => exact List.pairwise_singleton _ name
  | cons first rest ih =>
    obtain ⟨hfirst, hrest⟩ := List.pairwise_cons.mp h
    rw [insertName]
    split_ifs with hlt heq
    · refine List.pairwise_cons.mpr ⟨fun n hn => ?_, h⟩
      rcases List.mem_cons.mp hn with rfl | hn
      · exact hlt
      · exact String.lt_trans hlt (hfirst n hn)
    · exact h
    · refine List.pairwise_cons.mpr ⟨fun n hn => ?_, ih hrest⟩
      rcases mem_insertName.mp hn with rfl | hn
      · exact ((lt_trichotomy n first).resolve_left hlt).resolve_left heq
      · exact hfirst n hn

theorem mem_sortNames : n ∈ sortNames ns ↔ n ∈ ns := by
  induction ns with
  | nil => rfl
  | cons name rest ih =>
    rw [sortNames, List.foldr_cons, ← sortNames, mem_insertName, ih, List.mem_cons]

theorem pairwise_sortNames (ns : List String) : (sortNames ns).Pairwise (· < ·) := by
  induction ns with
  | nil => exact List.Pairwise.nil
  | cons name rest ih => exact pairwise_insertName ih

theorem mem_names : n ∈ names docs ↔ ∃ d ∈ docs, n ∈ Members.names (Document.body d) := by
  rw [names, mem_sortNames, List.mem_flatMap]

/-! ### Internal names -/

/-- Names that are internal under a prefix: those that start with it, if it is not empty. -/
def IsHidden (start name : String) : Prop := start ≠ "" ∧ start.toList <+: name.toList

theorem isInternal_text (start name : String) :
    ∃ hidden, isInternal (.str start) name = .ok hidden ∧ (hidden = true ↔ IsHidden start name) := by
  by_cases hempty : start = ""
  · subst hempty
    exact ⟨false, rfl, by simp [IsHidden]⟩
  · have htruthy : Value.truthy (.str start) = true := by simpa [Value.truthy] using hempty
    refine ⟨Text.startsWith name start, ?_, ?_⟩
    · rw [isInternal, htruthy]
      rfl
    · rw [Text.startsWith, List.isPrefixOf_iff_prefix, IsHidden, and_iff_right hempty]

/-- Without the internal names, the others are left in their order. -/
theorem withoutInternal_text (start : String) (ns : List String) :
    ∃ kept, withoutInternal (.str start) ns = .ok kept ∧ kept.Sublist ns ∧
      ∀ n, n ∈ kept ↔ n ∈ ns ∧ ¬ IsHidden start n := by
  induction ns with
  | nil => exact ⟨[], rfl, List.Sublist.slnil, by simp⟩
  | cons name rest ih =>
    obtain ⟨kept, hkept, hsublist, hmem⟩ := ih
    obtain ⟨hidden, hinternal, hhidden⟩ := isInternal_text start name
    have hrun : withoutInternal (.str start) (name :: rest)
        = .ok (if hidden then kept else name :: kept) := by
      rw [withoutInternal, hinternal, hkept]
      rfl
    refine ⟨_, hrun, ?_, fun n => ?_⟩
    · cases hidden with
      | true => exact hsublist.cons name
      | false => exact hsublist.cons_cons name
    · cases hidden with
      | true =>
        have hname : IsHidden start name := hhidden.mp rfl
        rw [if_pos rfl, hmem, List.mem_cons]
        refine ⟨fun h => ⟨.inr h.1, h.2⟩, fun h => ⟨h.1.resolve_left ?_, h.2⟩⟩
        rintro rfl
        exact h.2 hname
      | false =>
        have hname : ¬ IsHidden start name := fun h => Bool.false_ne_true (hhidden.mpr h)
        rw [if_neg Bool.false_ne_true, List.mem_cons, hmem, List.mem_cons]
        constructor
        · rintro (rfl | h)
          · exact ⟨.inl rfl, hname⟩
          · exact ⟨.inr h.1, h.2⟩
        · rintro ⟨rfl | h, hn⟩
          · exact .inl rfl
          · exact .inr ⟨h, hn⟩

/-! ### What discovery answers -/

/-- The fields of documents that are not internal under a prefix: in strictly ascending order, and
none but the names at the top level of some document. -/
structure IsUserFields (docs : List Value) (start : String) (found : List String) : Prop where
  /-- Each name comes before all that follow it. -/
  ascending : found.Pairwise (· < ·)
  /-- The names are those of the bodies that are not hidden. -/
  mem_iff : ∀ name, name ∈ found ↔
    (∃ d ∈ docs, name ∈ Members.names (Document.body d)) ∧ ¬ IsHidden start name

/-- **The fields are determined by which documents there are**, not by their order or number. -/
theorem IsUserFields.eq_of_mem_iff {found found' : List String} (h : IsUserFields docs start found)
    (h' : IsUserFields docs' start found') (hdocs : ∀ d, d ∈ docs ↔ d ∈ docs') : found = found' := by
  refine h.ascending.eq_of_mem_iff h'.ascending fun name => ?_
  simp only [h.mem_iff, h'.mem_iff, hdocs]

/-- Discovery answers the fields of the documents that a window shows. -/
theorem exists_user_eq_ok (form : Form) (docs : List Value) (start : String) {size : Value}
    {window : Window} (hsize : Window.ofValue size = .ok window) :
    ∃ found, user (.list form docs) (.str start) size = .ok found ∧
      IsUserFields (window.take docs) start found := by
  obtain ⟨kept, hkept, hsublist, hmem⟩ := withoutInternal_text start (names (window.take docs))
  refine ⟨kept, ?_, (pairwise_sortNames _).sublist hsublist, fun name => ?_⟩
  · have hall : all (.list form docs) size = .ok (names (window.take docs)) := by
      rw [all, Argument.documents, hsize]
      rfl
    rw [user, hall]
    exact hkept
  · rw [hmem, mem_names]

/-- **What field discovery finds**: of the documents that are looked at, exactly the names at the
top level of a body that are not internal, in strictly ascending order. A size for the window may be
any natural number up to the largest one. If all documents are looked at, neither their order nor
repetition matters. -/
theorem user_isUserFields (form : Form) (docs : List Value) (start : String) :
    (∀ n : Nat, n ≤ Window.maxSize → ∃ found,
      user (.list form docs) (.str start) (.int n) = .ok found ∧
        IsUserFields (docs.take n) start found) ∧
    (∃ found, user (.list form docs) (.str start) .null = .ok found ∧
      IsUserFields docs start found) ∧
    ∀ form' docs', (∀ d, d ∈ docs ↔ d ∈ docs') →
      user (.list form docs) (.str start) .null = user (.list form' docs') (.str start) .null := by
  have hnull : Window.ofValue .null = .ok none := rfl
  have hall := fun form docs => exists_user_eq_ok form docs start hnull
  refine ⟨fun n hn => exists_user_eq_ok form docs start (Window.ofValue_natCast hn),
    hall form docs, fun form' docs' hdocs => ?_⟩
  obtain ⟨found, hfound, hfields⟩ := hall form docs
  obtain ⟨found', hfound', hfields'⟩ := hall form' docs'
  rw [hfound, hfound', hfields.eq_of_mem_iff hfields' hdocs]

/-- Two documents, one of them in a row, and a text, each of them twice. -/
theorem user_isUserFields_twice :
    let docs := [.record [("b", .null), ("_id", .int 1)],
      .record [("doc", .record [("a", .int 2)]), ("c", .null)], .str "d"]
    ((2 : Nat) : Int) ≤ Window.maxSize ∧
      (∃ found, user (.array docs) (.str "_") (.int (2 : Nat)) = .ok found ∧
        IsUserFields (docs.take 2) "_" found) ∧
      user (.array docs) (.str "_") (.int 2) = .ok ["a", "b"] ∧
      (∀ d, d ∈ docs ↔ d ∈ docs ++ docs.reverse) ∧
      user (.array docs) (.str "_") .null
        = user (.array (docs ++ docs.reverse)) (.str "_") .null := by
  intro docs
  have hsize : ((2 : Nat) : Int) ≤ Window.maxSize := by decide
  have hdocs : ∀ d, d ∈ docs ↔ d ∈ docs ++ docs.reverse := by
    intro d
    rw [List.mem_append, List.mem_reverse, or_self]
  obtain ⟨hsample, -, hsame⟩ := user_isUserFields .plain docs "_"
  exact ⟨hsize, hsample 2 hsize, rfl, hdocs, hsame .plain _ hdocs⟩

/-- A size beyond the largest one is refused, although there is a single document with a single
field. -/
theorem not_user_isUserFields_size :
    let docs := [Value.record [("a", .int 1)]]
    let size := Nat.pow 2 63
    docs.take size = docs ∧ IsUserFields docs "_" ["a"] ∧
      ∀ found, user (.array docs) (.str "_") (.int size) ≠ .ok found := by
  intro docs size
  refine ⟨List.take_of_length_le (by decide), ⟨List.pairwise_singleton _ _, fun name => ?_⟩, ?_⟩
  · have hnames : Members.names (Document.body (.record [("a", .int 1)])) = ["a"] := rfl
    have hshown : ¬ IsHidden "_" "a" := fun h => absurd h.2 (by decide)
    simp only [docs, List.mem_singleton, exists_eq_left, hnames]
    exact ⟨fun h => ⟨h, h ▸ hshown⟩, And.left⟩
  · intro found hfound
    cases hfound

end DocView.Fields
