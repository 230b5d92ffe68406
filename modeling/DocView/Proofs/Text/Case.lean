import DocView.Proofs.Text.Table
import DocView.Text.Blank
import DocView.Text.Case
import DocView.Text.Digit
import DocView.Text.Letter
import Mathlib.Data.List.Forall2
import Mathlib.Tactic.SplitIfs

/-!
# Letters and their lower case

To take a character to its lower case is to apply a table of runs. Most of what can be said about
lower case is said about the table and checked row by row: the image of a run is met by no run, so
lower case is stable; each image has an upper case, so what lower case changes and what it
changes it to both have case; and a run leads from letters to letters and from other characters to
others, so lower case does not change what kind of character something is.

The lower case of a whole text is that of its characters, with two exceptions. The capital I with
a dot becomes two characters, and the capital sigma becomes one of two small ones.

## Main definitions

* `Text.caseRuns` - the runs of lower case
* `Text.LowersTo` - what may become of a character when a text is taken to lower case

## Main results

* `Text.simpleLower_simpleLower` - lower case is stable
* `Text.isCased_simpleLower` - what has become lower case has case
* `Text.forall₂_lowerFrom` - the lower case of a text, character by character
-/

namespace DocView.Text

variable {c d : Char} {run : Run} {cs : List Char}

/-! ### Characters and code points -/

theorem toNat_ofNat_of_isValidChar {n : Nat} (h : n.isValidChar) : (Char.ofNat n).toNat = n := by
  rw [Char.ofNat, dif_pos h]
  rfl

theorem toNat_toLower (c : Char) :
    c.toLower.toNat = if 0x41 ≤ c.toNat ∧ c.toNat ≤ 0x5a then c.toNat + 0x20 else c.toNat := by
  unfold Char.toLower
  split
  next h =>
    have hrange : 0x41 ≤ c.toNat ∧ c.toNat ≤ 0x5a := h
    rw [if_pos hrange]
    show (c.val + ('a'.val - 'A'.val)).toNat = c.val.toNat + 0x20
    rw [UInt32.toNat_add]
    have hsmall : c.val.toNat ≤ 0x5a := hrange.2
    show (c.val.toNat + 0x20) % 2 ^ 32 = _
    omega
  next h =>
    have hrange : ¬ (0x41 ≤ c.toNat ∧ c.toNat ≤ 0x5a) := h
    rw [if_neg hrange]

/-! ### Runs of lower case -/

/-- The runs of a table with those that are not in it: of ASCII, and of the capital I with a
dot. -/
def completeRuns (runs : List Run) : List Run := ⟨0x41, 25, 1, 0x61⟩ :: ⟨0x130, 0, 1, 0x69⟩ :: runs

/-- The runs of lower case. -/
def caseRuns : List Run := completeRuns lowerRuns.toList

/-- Whether the images under a run are code points of characters. -/
def Run.isValid (run : Run) : Bool :=
  run.target + run.length < 0xD800
    || (0xE000 ≤ run.target && run.target + run.length < 0x110000)

/-- Whether the images under a run are before another run, behind it, or between the code points
that it maps. -/
def Run.avoids (run other : Run) : Bool :=
  run.target + run.length < other.first || other.first + other.length < run.target
    || (other.stride == 2 && (run.target + other.first) % 2 == 1
      && (run.length == 0 || run.stride == 2))

theorem Run.isValidChar_imageOf {n : Nat} (h : run.isValid = true) (hhas : run.Has n) :
    (run.imageOf n).isValidChar := by
  obtain ⟨-, hle, -⟩ := hhas
  simp only [isValid, Bool.or_eq_true, Bool.and_eq_true, decide_eq_true_eq] at h
  unfold imageOf Nat.isValidChar
  omega

theorem Run.not_has_imageOf {other : Run} {n : Nat} (h : run.avoids other = true)
    (hhas : run.Has n) : ¬ other.Has (run.imageOf n) := by
  obtain ⟨-, hle, hstep⟩ := hhas
  rintro ⟨hfirst, hle', hstep'⟩
  simp only [avoids, Bool.or_eq_true, Bool.and_eq_true, decide_eq_true_eq, beq_iff_eq] at h
  unfold imageOf at hfirst hle' hstep'
  rcases h with (hbefore | hbehind) | ⟨⟨htwo, hodd⟩, hzero | hstride⟩
  · omega
  · omega
  · rw [htwo] at hstep'
    omega
  · rw [htwo] at hstep'
    rw [hstride] at hstep
    omega

/-- What is checked about the table of lower case. -/
def lowersSoundly (runs : List Run) : Bool :=
  Table.ascending Run.first Run.last 0x80 runs && runs.all (fun run => !decide (run.Has 0x130))
    && (completeRuns runs).all fun run => run.isValid && (completeRuns runs).all run.avoids

set_option maxRecDepth 20000 in
theorem lowersSoundly_lowerRuns : lowersSoundly lowerRuns.toList = true := by
  unfold lowerRuns
  rw [Table.toList_runs]
  decide +kernel

theorem ascending_lowerRuns :
    Table.ascending Run.first Run.last 0x80 lowerRuns.toList = true := by
  have h := lowersSoundly_lowerRuns
  simp only [lowersSoundly, Bool.and_eq_true] at h
  exact h.1.1

theorem not_has_of_mem_lowerRuns (h : run ∈ lowerRuns.toList) :
    (∀ n < 0x80, ¬ run.Has n) ∧ ¬ run.Has 0x130 := by
  constructor
  · rintro n hn ⟨hfirst, -⟩
    have hlow := (Table.first_le_last_of_ascending ascending_lowerRuns run h).1
    omega
  · have hchecked := lowersSoundly_lowerRuns
    simp only [lowersSoundly, Bool.and_eq_true, List.all_eq_true, Bool.not_eq_true',
      decide_eq_false_iff_not] at hchecked
    exact hchecked.1.2 run h

theorem isValid_and_avoids (h : run ∈ caseRuns) :
    run.isValid = true ∧ ∀ other ∈ caseRuns, run.avoids other = true := by
  have hchecked := lowersSoundly_lowerRuns
  simp only [lowersSoundly, Bool.and_eq_true, List.all_eq_true] at hchecked
  exact hchecked.2 run h

/-! ### Lower case of a character -/

/-- What is in no run has no lower case. -/
theorem simpleLower_of_forall_not_has (h : ∀ run ∈ caseRuns, ¬ run.Has c.toNat) :
    simpleLower c = c := by
  obtain ⟨hascii, hrest⟩ := List.forall_mem_cons.mp h
  obtain ⟨hdotted, hlower⟩ := List.forall_mem_cons.mp hrest
  unfold simpleLower
  split
  next hsmall =>
    refine Char.toNat_inj.mp ?_
    rw [toNat_toLower, if_neg]
    rintro ⟨hfirst, hlast⟩
    exact hascii ⟨hfirst, by show c.toNat - 0x41 ≤ 25; omega, Nat.mod_one _⟩
  next =>
    have hne : c.toNat ≠ 0x130 := fun hc =>
      hdotted ⟨Nat.le_of_eq hc.symm, by rw [hc]; decide, Nat.mod_one _⟩
    rw [if_neg hne]
    have hnone : Run.image? lowerRuns c.toNat = none := by
      refine Option.eq_none_iff_forall_ne_some.mpr fun m hm => ?_
      obtain ⟨run, hrun, hhas, -⟩ := (Run.image?_eq_some_iff ascending_lowerRuns).mp hm
      exact hlower run hrun hhas
    rw [hnone]
    rfl

/-- What is in a run has its image for lower case. -/
theorem toNat_simpleLower_of_has (hrun : run ∈ caseRuns) (hhas : run.Has c.toNat) :
    (simpleLower c).toNat = run.imageOf c.toNat := by
  have hvalid := Run.isValidChar_imageOf (isValid_and_avoids hrun).1 hhas
  unfold simpleLower
  rcases List.mem_cons.mp hrun with rfl | hrun
  · obtain ⟨hfirst, hle, -⟩ := hhas
    dsimp only at hfirst hle
    rw [if_pos (by omega), toNat_toLower, if_pos (by omega), Run.imageOf]
    dsimp only
    omega
  rcases List.mem_cons.mp hrun with rfl | hrun
  · obtain ⟨hfirst, hle, -⟩ := hhas
    dsimp only at hfirst hle
    have hc : c.toNat = 0x130 := by omega
    rw [hc]
    rfl
  · obtain ⟨hascii, hdotted⟩ := not_has_of_mem_lowerRuns hrun
    have hne : c.toNat ≠ 0x130 := fun hc => hdotted (hc ▸ hhas)
    rw [if_neg fun hlt => hascii _ hlt hhas, if_neg hne,
      (Run.image?_eq_some_iff ascending_lowerRuns).mpr ⟨run, hrun, hhas, rfl⟩]
    exact toNat_ofNat_of_isValidChar hvalid

/-- Lower case is what a run maps to, or changes nothing. -/
theorem simpleLower_cases (c : Char) :
    (∃ run ∈ caseRuns, run.Has c.toNat ∧ (simpleLower c).toNat = run.imageOf c.toNat) ∨
      simpleLower c = c := by
  by_cases h : ∃ run ∈ caseRuns, run.Has c.toNat
  · obtain ⟨run, hrun, hhas⟩ := h
    exact .inl ⟨run, hrun, hhas, toNat_simpleLower_of_has hrun hhas⟩
  · exact .inr (simpleLower_of_forall_not_has fun run hrun hhas => h ⟨run, hrun, hhas⟩)

/-- **Lower case is stable.** -/
theorem simpleLower_simpleLower (c : Char) : simpleLower (simpleLower c) = simpleLower c := by
  rcases simpleLower_cases c with ⟨run, hrun, hhas, hlower⟩ | hlower
  · refine simpleLower_of_forall_not_has fun other hother => ?_
    rw [hlower]
    exact Run.not_has_imageOf ((isValid_and_avoids hrun).2 other hother) hhas
  · rw [hlower, hlower]

/-! ### Upper case -/

/-- Whether a code point is in one of the runs or the source of an expansion that starts with
something else. -/
def rises (upper : List Run) (rows : List Expansion) (n : Nat) : Bool :=
  upper.any (fun run => decide (run.Has n))
    || rows.any fun row => row.source == n && row.image.headD n != n

/-- Whether the images under a run are all in this one. -/
def Run.continues (run before : Run) : Bool :=
  run.first ≤ before.target && before.target + before.length ≤ run.last
    && (before.target - run.first) % run.stride == 0
    && (before.length == 0 || run.stride == 1 || run.stride == before.stride)

/-- Whether all images under a run rise. -/
def Run.rises (upper : List Run) (rows : List Expansion) (run : Run) : Bool :=
  upper.any (fun next => next.continues run)
    || ((List.range (run.length + 1)).filter (· % run.stride == 0)).all fun k =>
      Text.rises upper rows (run.target + k)

/-- The runs of upper case with that of ASCII. -/
def completeUpperRuns (runs : List Run) : List Run := ⟨0x61, 25, 1, 0x41⟩ :: runs

theorem Run.has_of_continues {before : Run} {n : Nat} (h : run.continues before = true)
    (hhas : before.Has n) : run.Has (before.imageOf n) := by
  obtain ⟨-, hle, hstep⟩ := hhas
  simp only [continues, Bool.and_eq_true, Bool.or_eq_true, decide_eq_true_eq, beq_iff_eq] at h
  obtain ⟨⟨⟨hfirst, hlast⟩, hstart⟩, hstride⟩ := h
  unfold last at hlast
  unfold imageOf
  refine ⟨by omega, by omega, ?_⟩
  rw [Nat.sub_add_comm hfirst, Nat.add_mod, hstart, Nat.zero_add, Nat.mod_mod]
  rcases hstride with (hzero | hone) | hsame
  · rw [hzero, Nat.le_zero] at hle
    rw [hle, Nat.zero_mod]
  · rw [hone, Nat.mod_one]
  · rwa [hsame]

theorem Run.rises_imageOf {upper : List Run} {rows : List Expansion} {n : Nat}
    (h : run.rises upper rows = true) (hhas : run.Has n) :
    Text.rises upper rows (run.imageOf n) = true := by
  rcases Bool.or_eq_true_iff.mp h with hany | hall
  · obtain ⟨next, hnext, hcontinues⟩ := List.any_eq_true.mp hany
    refine Bool.or_eq_true_iff.mpr (.inl (List.any_eq_true.mpr ⟨next, hnext, ?_⟩))
    exact decide_eq_true (has_of_continues hcontinues hhas)
  · obtain ⟨-, hle, hstep⟩ := hhas
    refine List.all_eq_true.mp hall (n - run.first) (List.mem_filter.mpr ⟨?_, ?_⟩)
    · exact List.mem_range.mpr (Nat.lt_succ_of_le hle)
    · exact beq_iff_eq.mpr hstep

/-- What is checked about the tables of upper case, and about lower case together with them. The
small sigma of the ends of words is the one letter that the lower case of texts adds. -/
def raisesSoundly (lower upper : List Run) (rows : List Expansion) : Bool :=
  Table.ascending Run.first Run.last 0x80 upper
    && Table.ascending Expansion.source Expansion.source 0x80 rows
    && upper.all (fun run => run.target != run.first)
    && (completeRuns lower).all (Run.rises (completeUpperRuns upper) rows)
    && rises (completeUpperRuns upper) rows 0x3c2

set_option maxRecDepth 20000 in
theorem raisesSoundly_tables :
    raisesSoundly lowerRuns.toList upperRuns.toList upperRows.toList = true := by
  unfold lowerRuns upperRuns upperRows
  rw [Table.toList_runs, Table.toList_runs, Table.toList_expansions]
  decide +kernel

theorem ofNat_ne {n : Nat} (hne : n ≠ c.toNat) (hpos : 0 < c.toNat) : Char.ofNat n ≠ c := by
  rintro rfl
  by_cases hvalid : n.isValidChar
  · exact hne (toNat_ofNat_of_isValidChar hvalid).symm
  · rw [Char.ofNat, dif_neg hvalid] at hpos
    exact Nat.lt_irrefl 0 hpos

theorem toUpper_ofNat_ne :
    ∀ n < 0x80, 0x61 ≤ n → n ≤ 0x7a → (Char.ofNat n).toUpper ≠ Char.ofNat n := by
  decide

theorem upperRuns_checked :
    Table.ascending Run.first Run.last 0x80 upperRuns.toList = true ∧
      Table.ascending Expansion.source Expansion.source 0x80 upperRows.toList = true ∧
      ∀ run ∈ upperRuns.toList, run.target ≠ run.first := by
  have h := raisesSoundly_tables
  simp only [raisesSoundly, Bool.and_eq_true, List.all_eq_true, bne_iff_ne] at h
  exact ⟨h.1.1.1.1, h.1.1.1.2, h.1.1.2⟩

theorem rises_iff {upper : List Run} {rows : List Expansion} {n : Nat} :
    rises upper rows n = true ↔ (∃ run ∈ upper, run.Has n) ∨
      ∃ row ∈ rows, row.source = n ∧ row.image.headD n ≠ n := by
  simp [rises]

/-- An expansion that starts with something else starts with another character. -/
theorem headD_map_ofNat_ne {image : List Nat} (h : image.headD c.toNat ≠ c.toNat)
    (hpos : 0 < c.toNat) : (image.map Char.ofNat).headD c ≠ c := by
  cases image with
  | nil => exact absurd rfl h
  | cons m rest => exact ofNat_ne h hpos

/-- A character that is in a table of upper case has another upper case. -/
theorem simpleUpper_ne (h : rises (completeUpperRuns upperRuns.toList) upperRows.toList c.toNat) :
    simpleUpper c ≠ c := by
  obtain ⟨hruns, hrows, hmoves⟩ := upperRuns_checked
  unfold simpleUpper upperLetters
  by_cases hsmall : c.toNat < 0x80
  · rw [if_pos hsmall]
    have hletter : 0x61 ≤ c.toNat ∧ c.toNat ≤ 0x7a := by
      rcases rises_iff.mp h with ⟨run, hrun, hfirst, hle, -⟩ | ⟨row, hrow, hsource, -⟩
      · rcases List.mem_cons.mp hrun with rfl | hrun
        · dsimp only at hfirst hle
          omega
        · have := (Table.first_le_last_of_ascending hruns run hrun).1
          omega
      · have := (Table.first_le_last_of_ascending hrows row hrow).1
        omega
    have hupper := toUpper_ofNat_ne c.toNat hsmall hletter.1 hletter.2
    rwa [Char.ofNat_toNat] at hupper
  · rw [if_neg hsmall]
    have hpos : 0 < c.toNat := by omega
    cases himage : Run.image? upperRuns c.toNat with
    | some m =>
      obtain ⟨run, hrun, ⟨hfirst, -⟩, rfl⟩ := (Run.image?_eq_some_iff hruns).mp himage
      have hmove := hmoves run hrun
      refine ofNat_ne ?_ hpos
      unfold Run.imageOf
      omega
    | none =>
      rcases rises_iff.mp h with ⟨run, hrun, hhas⟩ | ⟨row, hrow, hsource, hhead⟩
      · rcases List.mem_cons.mp hrun with rfl | hrun
        · obtain ⟨hfirst, hle, -⟩ := hhas
          dsimp only at hfirst hle
          omega
        · cases himage.symm.trans ((Run.image?_eq_some_iff hruns).mpr ⟨run, hrun, hhas, rfl⟩)
      · rw [← hsource, Expansion.image?_of_mem hrows hrow]
        exact headD_map_ofNat_ne hhead hpos

theorem isCased_of_rises
    (h : rises (completeUpperRuns upperRuns.toList) upperRows.toList c.toNat = true) :
    isCased c = true :=
  Bool.or_eq_true_iff.mpr (.inr (bne_iff_ne.mpr (simpleUpper_ne h)))

theorem isCased_of_simpleLower_ne (h : simpleLower c ≠ c) : isCased c = true :=
  Bool.or_eq_true_iff.mpr (.inl (bne_iff_ne.mpr h))

/-- What lower case changes something to has case. -/
theorem isCased_simpleLower (h : simpleLower c ≠ c) : isCased (simpleLower c) = true := by
  rcases simpleLower_cases c with ⟨run, hrun, hhas, hlower⟩ | hlower
  · have hchecked := raisesSoundly_tables
    simp only [raisesSoundly, Bool.and_eq_true, List.all_eq_true] at hchecked
    refine isCased_of_rises ?_
    rw [hlower]
    exact Run.rises_imageOf (hchecked.1.2 run hrun) hhas
  · exact absurd hlower h

/-- Nothing but a character without case itself becomes one. -/
theorem simpleLower_eq_iff_of_not_isCased (h : isCased d = false) : simpleLower c = d ↔ c = d := by
  constructor
  · rintro rfl
    by_contra hne
    cases h.symm.trans (isCased_simpleLower (Ne.symm hne))
  · rintro rfl
    by_contra hne
    cases h.symm.trans (isCased_of_simpleLower_ne hne)

/-! ### Kinds of characters -/

/-- The letters and numbers of ASCII before the spans of a table. -/
def completeSpans (spans : List Span) : List Span :=
  ⟨0x30, 0x39⟩ :: ⟨0x41, 0x5a⟩ :: ⟨0x61, 0x7a⟩ :: spans

/-- The letters and numbers. -/
def wordSpans : List Span := completeSpans letterRanges.toList

/-- The decimal digits. -/
def digitSpans : List Span := zeroDigits.map fun first => ⟨first, first + 9⟩

/-- The blanks. -/
def blankSpans : List Span :=
  [⟨9, 13⟩, ⟨28, 32⟩, ⟨0x85, 0x85⟩, ⟨0xa0, 0xa0⟩, ⟨0x1680, 0x1680⟩, ⟨0x2000, 0x200a⟩,
    ⟨0x2028, 0x2029⟩, ⟨0x202f, 0x202f⟩, ⟨0x205f, 0x205f⟩, ⟨0x3000, 0x3000⟩]

/-- Whether two stretches of one length are both in a span, or both outside of all spans. -/
def Span.agree (spans : List Span) (first second length : Nat) : Bool :=
  match Span.holds? spans first (first + length), Span.holds? spans second (second + length) with
  | some a, some b => a == b
  | _, _ => false

/-- Whether a run leads from spans to spans, and from outside of them to outside. -/
def Run.keeps (spans : List Span) (run : Run) : Bool :=
  Span.agree spans run.first run.target run.length
    || ((List.range (run.length + 1)).filter (· % run.stride == 0)).all fun k =>
      Span.agree spans (run.first + k) (run.target + k) 0

/-- What is checked about lower case and a kind of characters. -/
def keepsKind (lower : List Run) (spans : List Span) : Bool :=
  Table.ascending Span.first Span.last 0 spans && (completeRuns lower).all (Run.keeps spans)
    && Span.agree spans 0x3c2 0x3c3 0

theorem Span.among_iff_of_agree {spans : List Span} {low first second length k : Nat}
    (hsorted : Table.ascending Span.first Span.last low spans = true)
    (h : Span.agree spans first second length = true) (hk : k ≤ length) :
    Span.Among spans (second + k) ↔ Span.Among spans (first + k) := by
  unfold agree at h
  split at h
  next a b hfirst hsecond =>
    obtain rfl : a = b := beq_iff_eq.mp h
    cases a with
    | true =>
      exact iff_of_true (among_of_holds? hsecond (by omega) (by omega))
        (among_of_holds? hfirst (by omega) (by omega))
    | false =>
      exact iff_of_false (not_among_of_holds? hsorted hsecond (by omega) (by omega))
        (not_among_of_holds? hsorted hfirst (by omega) (by omega))
  next => cases h

theorem Run.among_imageOf {spans : List Span} {low n : Nat}
    (hsorted : Table.ascending Span.first Span.last low spans = true)
    (h : run.keeps spans = true) (hhas : run.Has n) :
    Span.Among spans (run.imageOf n) ↔ Span.Among spans n := by
  obtain ⟨hfirst, hle, hstep⟩ := hhas
  have hn : run.first + (n - run.first) = n := by omega
  rcases Bool.or_eq_true_iff.mp h with hwhole | hall
  · have hsame := Span.among_iff_of_agree hsorted hwhole hle
    rwa [hn] at hsame
  · have hpoint := List.all_eq_true.mp hall (n - run.first) (List.mem_filter.mpr
      ⟨List.mem_range.mpr (Nat.lt_succ_of_le hle), beq_iff_eq.mpr hstep⟩)
    have hsame := Span.among_iff_of_agree hsorted hpoint (Nat.le_refl 0)
    rwa [Nat.add_zero, Nat.add_zero, hn] at hsame

/-- Lower case keeps a kind that has been checked. -/
theorem among_simpleLower {spans : List Span} (h : keepsKind lowerRuns.toList spans = true)
    (c : Char) : Span.Among spans (simpleLower c).toNat ↔ Span.Among spans c.toNat := by
  simp only [keepsKind, Bool.and_eq_true, List.all_eq_true] at h
  rcases simpleLower_cases c with ⟨run, hrun, hhas, hlower⟩ | hlower
  · rw [hlower]
    exact Run.among_imageOf h.1.1 (h.1.2 run hrun) hhas
  · rw [hlower]

set_option maxRecDepth 20000 in
theorem keepsKind_wordSpans :
    Table.ascending Span.first Span.last 0x80 letterRanges.toList = true ∧
      keepsKind lowerRuns.toList wordSpans = true := by
  unfold lowerRuns wordSpans letterRanges
  rw [Table.toList_runs, Table.toList_spans]
  decide +kernel

set_option maxRecDepth 20000 in
theorem keepsKind_digitSpans_blankSpans :
    keepsKind lowerRuns.toList digitSpans = true ∧
      keepsKind lowerRuns.toList blankSpans = true := by
  unfold lowerRuns
  rw [Table.toList_runs]
  decide +kernel

theorem isAlphanum_iff (c : Char) : c.isAlphanum = true ↔
    (0x30 ≤ c.toNat ∧ c.toNat ≤ 0x39) ∨ (0x41 ≤ c.toNat ∧ c.toNat ≤ 0x5a) ∨
      (0x61 ≤ c.toNat ∧ c.toNat ≤ 0x7a) := by
  have hupper : c.isUpper = true ↔ 0x41 ≤ c.toNat ∧ c.toNat ≤ 0x5a := decide_eq_true_iff
  have hlower : c.isLower = true ↔ 0x61 ≤ c.toNat ∧ c.toNat ≤ 0x7a :=
    Bool.and_eq_true_iff.trans (and_congr decide_eq_true_iff decide_eq_true_iff)
  have hdigit : c.isDigit = true ↔ 0x30 ≤ c.toNat ∧ c.toNat ≤ 0x39 :=
    Bool.and_eq_true_iff.trans (and_congr decide_eq_true_iff decide_eq_true_iff)
  have halphanum : c.isAlphanum = true ↔ (c.isUpper = true ∨ c.isLower = true) ∨ c.isDigit = true :=
    Bool.or_eq_true_iff.trans (or_congr_left Bool.or_eq_true_iff)
  rw [halphanum, hupper, hlower, hdigit]
  exact or_comm

theorem isLetterOrNumber_iff (c : Char) :
    isLetterOrNumber c = true ↔ Span.Among wordSpans c.toNat := by
  have hsorted := keepsKind_wordSpans.1
  have hspans : Span.Among wordSpans c.toNat ↔
      c.isAlphanum = true ∨ Span.Among letterRanges.toList c.toNat := by
    simp [Span.Among, Span.Has, wordSpans, completeSpans, isAlphanum_iff, or_assoc]
  rw [hspans]
  unfold isLetterOrNumber
  split
  next hsmall =>
    refine (or_iff_left ?_).symm
    rintro ⟨span, hspan, hfirst, -⟩
    have := (Table.first_le_last_of_ascending hsorted span hspan).1
    omega
  next hlarge =>
    rw [Span.covers_iff hsorted]
    refine (or_iff_right fun halphanum => ?_).symm
    rw [isAlphanum_iff] at halphanum
    omega

theorem isDigit_iff (c : Char) : isDigit c = true ↔ Span.Among digitSpans c.toNat := by
  simp [isDigit, digit?, digitSpans, Span.Among, Span.Has, Nat.lt_succ_iff]

theorem isBlank_iff (c : Char) : isBlank c = true ↔ Span.Among blankSpans c.toNat := by
  simp only [isBlank, blankSpans, Span.Among, Span.Has, List.mem_cons, List.not_mem_nil, or_false,
    exists_eq_or_imp, exists_eq_left, Bool.or_eq_true, Bool.and_eq_true, decide_eq_true_eq,
    beq_iff_eq]
  omega

/-! ### Lower case in a text -/

/-- What may become of a character when a text is taken to lower case. -/
inductive LowersTo : Char → Char → Prop
  | single (c : Char) : LowersTo c (simpleLower c)
  | finalSigma : LowersTo 'Σ' 'ς'

set_option maxRecDepth 20000 in
theorem exists_run_sigma :
    (∃ run ∈ caseRuns, run.Has 0x3a3 ∧ run.imageOf 0x3a3 = 0x3c3) ∧
      ∀ run ∈ caseRuns, ¬ run.Has 0x3c2 := by
  unfold caseRuns lowerRuns
  rw [Table.toList_runs]
  decide +kernel

theorem simpleLower_sigma : simpleLower 'Σ' = 'σ' := by
  obtain ⟨run, hrun, hhas, himage⟩ := exists_run_sigma.1
  exact Char.toNat_inj.mp ((toNat_simpleLower_of_has (c := 'Σ') hrun hhas).trans himage)

theorem simpleLower_smallSigma : simpleLower 'σ' = 'σ' := by
  rw [← simpleLower_sigma, simpleLower_simpleLower]

theorem simpleLower_finalSigma : simpleLower 'ς' = 'ς' :=
  simpleLower_of_forall_not_has exists_run_sigma.2

theorem LowersTo.among {spans : List Span} (hkind : keepsKind lowerRuns.toList spans = true)
    (h : LowersTo c d) : Span.Among spans d.toNat ↔ Span.Among spans c.toNat := by
  cases h with
  | single => exact among_simpleLower hkind c
  | finalSigma =>
    rw [← among_simpleLower hkind 'Σ', simpleLower_sigma]
    simp only [keepsKind, Bool.and_eq_true] at hkind
    exact (Span.among_iff_of_agree hkind.1.1 hkind.2 (Nat.le_refl 0)).symm

/-- Lower case does not change the kind of a character. -/
theorem LowersTo.isLetterOrNumber_eq (h : LowersTo c d) :
    isLetterOrNumber d = isLetterOrNumber c := by
  rw [Bool.eq_iff_iff, isLetterOrNumber_iff, isLetterOrNumber_iff]
  exact h.among keepsKind_wordSpans.2

theorem LowersTo.isDigit_eq (h : LowersTo c d) : isDigit d = isDigit c := by
  rw [Bool.eq_iff_iff, isDigit_iff, isDigit_iff]
  exact h.among keepsKind_digitSpans_blankSpans.1

theorem LowersTo.isBlank_eq (h : LowersTo c d) : isBlank d = isBlank c := by
  rw [Bool.eq_iff_iff, isBlank_iff, isBlank_iff]
  exact h.among keepsKind_digitSpans_blankSpans.2

theorem isCased_finalSigma : isCased 'ς' = true := by
  have h := raisesSoundly_tables
  simp only [raisesSoundly, Bool.and_eq_true] at h
  have hcode : 'ς'.toNat = 0x3c2 := rfl
  refine isCased_of_rises ?_
  rw [hcode]
  exact h.2

theorem isCased_sigma : isCased 'Σ' = true := by
  refine isCased_of_simpleLower_ne ?_
  rw [simpleLower_sigma]
  decide

/-- A character without case corresponds to itself only. -/
theorem LowersTo.eq_iff_of_not_isCased (h : LowersTo c d) {l : Char} (hl : isCased l = false) :
    c = l ↔ d = l := by
  cases h with
  | single => exact (simpleLower_eq_iff_of_not_isCased hl).symm
  | finalSigma =>
    refine iff_of_false ?_ ?_
    · rintro rfl
      cases hl.symm.trans isCased_sigma
    · rintro rfl
      cases hl.symm.trans isCased_finalSigma

/-! ### The two small sigmas -/

set_option maxRecDepth 20000 in
theorem exists_upperRun_sigma :
    (∃ run ∈ upperRuns.toList, run.Has 0x3c2 ∧ run.imageOf 0x3c2 = 0x3a3) ∧
      ∃ run ∈ upperRuns.toList, run.Has 0x3c3 ∧ run.imageOf 0x3c3 = 0x3a3 := by
  unfold upperRuns
  rw [Table.toList_runs]
  decide +kernel

/-- The two small sigmas share the capital one. -/
theorem simpleUpper_sigmas : simpleUpper 'σ' = 'Σ' ∧ simpleUpper 'ς' = 'Σ' := by
  have himage {c : Char} (hlarge : ¬ c.toNat < 0x80)
      (h : ∃ run ∈ upperRuns.toList, run.Has c.toNat ∧ run.imageOf c.toNat = 0x3a3) :
      simpleUpper c = 'Σ' := by
    rw [simpleUpper, upperLetters, if_neg hlarge,
      (Run.image?_eq_some_iff upperRuns_checked.1).mpr h]
    rfl
  exact ⟨himage (by decide) exists_upperRun_sigma.2, himage (by decide) exists_upperRun_sigma.1⟩

theorem caseSiblings_sigmas : caseSiblings 'σ' = ['ς'] ∧ caseSiblings 'ς' = ['σ'] := by
  unfold caseSiblings siblingGroups
  rw [Table.rows_ofList]
  decide +kernel

theorem siblingGroups_sigmas :
    ∀ group ∈ siblingGroups, 0x3c2 ∈ group ∨ 0x3c3 ∈ group → group = [0x3c2, 0x3c3] := by
  unfold siblingGroups
  rw [Table.rows_ofList]
  decide +kernel

theorem eq_sigma_of_mem_caseSiblings (hd : d = 'σ' ∨ d = 'ς') (h : d ∈ caseSiblings c) :
    c = 'σ' ∨ c = 'ς' := by
  obtain ⟨group, hgroup, hd'⟩ := List.mem_flatMap.mp h
  obtain ⟨hmem, hc⟩ := List.mem_filter.mp hgroup
  obtain ⟨n, hn, hnd⟩ := List.mem_map.mp hd'
  have hn := (List.mem_filter.mp hn).1
  have hpos : 0 < d.toNat := by rcases hd with rfl | rfl <;> decide
  have hcode : n = d.toNat := by
    by_contra hne
    exact ofNat_ne hne hpos hnd
  have hsigmas : group = [0x3c2, 0x3c3] := by
    refine siblingGroups_sigmas group hmem ?_
    rw [hcode] at hn
    rcases hd with rfl | rfl
    · exact .inr hn
    · exact .inl hn
  rw [hsigmas, List.contains_iff_mem, List.mem_cons, List.mem_singleton] at hc
  exact hc.symm.imp Char.toNat_inj.mp Char.toNat_inj.mp

/-- What counts as the same as one of the small sigmas counts as the same as the other. -/
theorem contains_siblings_sigma (c : Char) :
    (c :: caseSiblings c).contains 'σ' = (c :: caseSiblings c).contains 'ς' := by
  by_cases h : c = 'σ' ∨ c = 'ς'
  · rcases h with rfl | rfl
    · rw [caseSiblings_sigmas.1]
      decide
    · rw [caseSiblings_sigmas.2]
      decide
  · have hnone {d : Char} (hd : d = 'σ' ∨ d = 'ς') : (c :: caseSiblings c).contains d = false := by
      rw [Bool.eq_false_iff]
      intro hmem
      rcases List.mem_cons.mp (List.contains_iff_mem.mp hmem) with rfl | hmem
      · exact h hd
      · exact h (eq_sigma_of_mem_caseSiblings hd hmem)
    rw [hnone (.inl rfl), hnone (.inr rfl)]

/-! ### Whole texts -/

/-- **The lower case of a text without a dotted capital I**, character by character. -/
theorem forall₂_lowerFrom (h : 'İ' ∉ cs) (before : List Char) :
    List.Forall₂ LowersTo cs (lowerFrom before cs) := by
  induction cs generalizing before with
  | nil => exact .nil
  | cons c rest ih =>
    obtain ⟨hc, hrest⟩ := not_or.mp (mt List.mem_cons.mpr h)
    have hdotted : c.toNat ≠ 0x130 := fun hcode => hc (Char.toNat_inj.mp hcode.symm)
    have hsingle {d : Char} (hd : simpleLower c = d) : LowersTo c d := hd ▸ .single c
    unfold lowerFrom
    show List.Forall₂ LowersTo ([c] ++ rest) _
    refine List.rel_append ?_ (ih hrest _)
    split
    next hsmall => exact .cons (hsingle (if_pos hsmall)) .nil
    next hlarge =>
      split
      next hsigma =>
        obtain rfl : c = 'Σ' := Char.toNat_inj.mp hsigma
        split
        · exact .cons .finalSigma .nil
        · exact .cons (hsingle simpleLower_sigma) .nil
      next =>
        refine .cons (hsingle ?_) .nil
        rw [simpleLower, if_neg hlarge, if_neg hdotted]

/-- No character is lost in lower case. -/
theorem length_le_lowerFrom (cs before : List Char) :
    cs.length ≤ (lowerFrom before cs).length := by
  induction cs generalizing before with
  | nil => exact Nat.zero_le _
  | cons c rest ih =>
    have hrest := ih (c :: before)
    unfold lowerFrom
    dsimp only
    split_ifs <;> simp only [List.length_append, List.length_cons, List.length_nil] <;> omega

set_option maxRecDepth 20000 in
theorem among_sigma :
    (Table.ascending Span.first Span.last 0 caseIgnorableRanges.toList = true ∧
      ¬ Span.Among caseIgnorableRanges.toList 0x3a3) ∧
    Table.ascending Span.first Span.last 0 casedRanges.toList = true ∧
      Span.Among casedRanges.toList 0x3a3 := by
  unfold caseIgnorableRanges casedRanges
  rw [Table.toList_spans, Table.toList_spans]
  decide +kernel

/-- Of two capital sigmas, the second ends the word. -/
theorem lower_sigmas : lower "ΣΣ" = "σς" := by
  obtain ⟨⟨hignorable, hkept⟩, hcased, hsigma⟩ := among_sigma
  have hleads (rest : List Char) : leadsWithCased ('Σ' :: rest) = true := by
    have hdrop : (('Σ' :: rest).dropWhile fun c => Span.covers caseIgnorableRanges c.toNat)
        = 'Σ' :: rest :=
      List.dropWhile_cons_of_neg ((Span.covers_iff hignorable).not.mpr hkept)
    rw [leadsWithCased, hdrop]
    exact (Span.covers_iff hcased).mpr hsigma
  have hcode : 'Σ'.toNat = 0x3a3 := rfl
  have hnothing : leadsWithCased [] = false := rfl
  have hlower : lowerFrom [] ['Σ', 'Σ'] = ['σ', 'ς'] := by
    simp [lowerFrom, hcode, hnothing, hleads]
  exact congrArg String.ofList hlower

set_option maxRecDepth 20000 in
theorem exists_run_kelvin : ∃ run ∈ caseRuns, run.Has 0x212a ∧ run.imageOf 0x212a = 0x6b := by
  unfold caseRuns lowerRuns
  rw [Table.toList_runs]
  decide +kernel

/-- The sign for kelvins is a capital letter outside of ASCII whose lower case is in ASCII. -/
theorem lower_kelvin : lower "\u212a" = "k" := by
  obtain ⟨run, hrun, hhas, himage⟩ := exists_run_kelvin
  have hletter : simpleLower '\u212a' = 'k' :=
    Char.toNat_inj.mp ((toNat_simpleLower_of_has (c := '\u212a') hrun hhas).trans himage)
  have hlower : lowerFrom [] ['\u212a'] = [simpleLower '\u212a'] := by
    simp [lowerFrom, simpleLower]
  exact congrArg String.ofList (hlower.trans (by rw [hletter]))
end DocView.Text
