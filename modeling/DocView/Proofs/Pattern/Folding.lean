import DocView.Proofs.Pattern.Matcher
import DocView.Proofs.Text.Case

/-!
# Patterns that ignore case

When case is ignored, a character is compared by its lower case, a set is tested in lower case, and
the classes have the same characters in lower case as they are. So a pattern that ignores case in
all of its parts does not tell a character from its lower case.

There is a subtlety about sets. One without any member that has case is tested on the character as
it stands. But what has no case corresponds to itself only, so this makes no difference.

The small sigma of the ends of words is not what lower case makes of a capital sigma alone. A test
does not see the difference, since both small sigmas have the same capital. Only a reference does,
which compares one character of the text with another by their lower case.

## Main definitions

* `Pattern.Node.folds` - whether a pattern ignores case in all of its parts
* `Pattern.Node.refers` - whether it refers to groups

## Main results

* `Pattern.Node.respects_simpleLower`, `Pattern.Node.respects_lowersTo`
-/

namespace DocView.Pattern

open Text (LowersTo isCased simpleLower caseSiblings)

variable {c d : Char} {code : Nat}

/-! ### Parts that ignore case -/

/-- Whether a test ignores case. -/
def CharTest.folds : CharTest → Bool
  | .any | .anyButLineBreak => true
  | .literal fold _ _ => fold == .full
  | .set fold ascii _ _ => fold == .full && !ascii

/-- Whether an anchor asks for the words of all scripts, if it asks for words. -/
def Anchor.folds : Anchor → Bool
  | .wordEdge ascii | .noWordEdge ascii => !ascii
  | _ => true

namespace Node

/-- Whether all parts of a pattern ignore case. -/
def folds : Node → Bool
  | .empty => true
  | .char test => test.folds
  | .anchor place => place.folds
  | .sequence a b | .choice a b | .conditional _ a b => a.folds && b.folds
  | .group _ body | .atomic body | .repetition _ _ _ body | .ahead _ body | .behind _ _ body =>
    body.folds
  | .reference _ fold _ => fold == .full

/-- Whether a pattern refers to what a group has matched. -/
def refers : Node → Bool
  | .empty | .char _ | .anchor _ => false
  | .sequence a b | .choice a b | .conditional _ a b => a.refers || b.refers
  | .group _ body | .atomic body | .repetition _ _ _ body | .ahead _ body | .behind _ _ body =>
    body.refers
  | .reference _ _ _ => true

end Node

/-! ### Characters without case -/

@[simp] theorem Fold.lower_full (c : Char) : Fold.lower .full c = simpleLower c := rfl

@[simp] theorem Fold.hasCase_full (c : Char) : Fold.hasCase .full c = isCased c := rfl

@[simp] theorem Fold.siblings_full (c : Char) : Fold.siblings .full c = c :: caseSiblings c := rfl

theorem charOf?_eq_some_iff : charOf? code = some c ↔ c.toNat = code := by
  unfold charOf?
  constructor
  · intro h
    split at h
    next hvalid =>
      obtain rfl := Option.some.inj h
      exact Text.toNat_ofNat_of_isValidChar hvalid
    next => cases h
  · rintro rfl
    have hvalid : c.toNat.isValidChar := c.valid
    rw [if_pos hvalid, Char.ofNat_toNat]

theorem eq_lineBreak_iff (h : LowersTo c d) : c = '\n' ↔ d = '\n' :=
  h.eq_iff_of_not_isCased (by decide)

/-- The classes are the same in lower case. -/
theorem ClassName.contains_eq (h : LowersTo c d) (name : ClassName) :
    name.contains false c = name.contains false d := by
  have hunderscore : (c == '_') = (d == '_') := by
    rw [Bool.eq_iff_iff, beq_iff_eq, beq_iff_eq]
    exact h.eq_iff_of_not_isCased (by decide)
  cases name with
  | digit => exact h.isDigit_eq.symm
  | space => exact h.isBlank_eq.symm
  | word => rw [contains, contains, h.isLetterOrNumber_eq, hunderscore]

theorem not_isCased_of_rangeHasCase {low high : Nat} (h : rangeHasCase .full low high = false)
    (hlow : low ≤ c.toNat) (hhigh : c.toNat ≤ high) : isCased c = false := by
  have hnone := List.any_eq_false.mp h (c.toNat - low) (List.mem_range.mpr (by omega))
  have hchar : charOf? (low + (c.toNat - low)) = some c := charOf?_eq_some_iff.mpr (by omega)
  simpa [hchar] using hnone

/-- A member without case is the same for a character as for its lower case. -/
theorem Member.holdsExactly_eq (h : LowersTo c d) {member : Member}
    (hcase : member.hasCase .full = false) :
    member.holdsExactly false c = member.holdsExactly false d := by
  cases member with
  | named name negated => rw [holdsExactly, holdsExactly, ClassName.contains_eq h]
  | single code =>
    rw [holdsExactly, holdsExactly, Bool.eq_iff_iff, beq_iff_eq, beq_iff_eq]
    rw [← charOf?_eq_some_iff, ← charOf?_eq_some_iff]
    cases hl : charOf? code with
    | none => exact iff_of_false (by simp) (by simp)
    | some l =>
      have hl' : isCased l = false := by
        rw [hasCase, hl] at hcase
        exact (Bool.or_eq_false_iff.mp hcase).1
      simpa [eq_comm] using h.eq_iff_of_not_isCased hl'
  | range low high =>
    have hrange := (Bool.or_eq_false_iff.mp hcase).2
    have huncased {x : Char} (hx : low ≤ x.toNat ∧ x.toNat ≤ high) : isCased x = false :=
      not_isCased_of_rangeHasCase hrange hx.1 hx.2
    rw [holdsExactly, holdsExactly, Bool.eq_iff_iff]
    simp only [Bool.and_eq_true, decide_eq_true_eq]
    constructor
    · intro hc
      rwa [(h.eq_iff_of_not_isCased (huncased hc)).mp rfl]
    · intro hd
      rwa [(h.eq_iff_of_not_isCased (huncased hd)).mpr rfl]

/-! ### Tests -/

theorem mem_lowerSources_self (h : simpleLower c = c) : c ∈ lowerSources .full c := by
  simp [lowerSources, Fold.lower, h]

/-- A member is the same for both small sigmas. -/
theorem Member.holdsFolded_sigmas (member : Member) :
    member.holdsFolded .full false 'σ' = member.holdsFolded .full false 'ς' := by
  cases member with
  | named name negated =>
    have hcapital := ClassName.contains_eq (.single 'Σ') name
    rw [Text.simpleLower_sigma, ClassName.contains_eq .finalSigma] at hcapital
    rw [holdsFolded, holdsFolded, hcapital]
  | single code =>
    rw [holdsFolded, holdsFolded]
    cases charOf? code with
    | none => rfl
    | some member =>
      dsimp only
      by_cases hlarge : lastBasic < (Fold.full.lower member).toNat
      · have hne {c : Char} (hlower : simpleLower c = c) (hsmall : c.toNat ≤ lastBasic) :
            (c == member) = false := by
          rw [beq_eq_false_iff_ne]
          rintro rfl
          rw [Fold.lower_full, hlower] at hlarge
          omega
        rw [if_pos hlarge, if_pos hlarge, hne Text.simpleLower_smallSigma (by decide),
          hne Text.simpleLower_finalSigma (by decide)]
      · rw [if_neg hlarge, if_neg hlarge]
        exact Text.contains_siblings_sigma _
  | range low high =>
    rw [holdsFolded, holdsFolded, Text.simpleUpper_sigmas.1, Text.simpleUpper_sigmas.2,
      Fold.siblings_full, Fold.siblings_full, Text.caseSiblings_sigmas.1,
      Text.caseSiblings_sigmas.2]
    generalize hsources : (fun y => (lowerSources .full y).any fun x =>
      decide (low ≤ x.toNat) && decide (x.toNat ≤ min high lastBasic)) = sources
    have hlast : lastBasic = 0xffff := rfl
    have hcode : 'σ'.toNat = 0x3c3 := rfl
    have hcode' : 'ς'.toNat = 0x3c2 := rfl
    by_cases hfirst : low = 0x3c3 ∧ lastBasic < high
    · -- One sigma is in the range and the other is not, but both stand for the one that is.
      have hsource : sources 'σ' = true := by
        rw [← hsources]
        refine List.any_eq_true.mpr ⟨'σ', mem_lowerSources_self Text.simpleLower_smallSigma, ?_⟩
        rw [Bool.and_eq_true, decide_eq_true_eq, decide_eq_true_eq, hcode]
        omega
      simp [hsource]
    · rw [Bool.eq_iff_iff]
      simp only [List.any_cons, List.any_nil, Bool.or_false, Bool.or_eq_true, Bool.and_eq_true,
        decide_eq_true_eq, hcode, hcode']
      refine or_congr or_comm (and_congr_right fun hhigh => or_congr_left ?_)
      omega

theorem Member.holdsFolded_eq (h : LowersTo c d) (member : Member) :
    member.holdsFolded .full false (simpleLower c)
      = member.holdsFolded .full false (simpleLower d) := by
  cases h with
  | single => rw [Text.simpleLower_simpleLower]
  | finalSigma =>
    rw [Text.simpleLower_sigma, Text.simpleLower_finalSigma]
    exact member.holdsFolded_sigmas

/-- A letter is the same as another one whatever small sigma that has become. -/
theorem contains_siblings_eq (h : LowersTo c d) (l : Char) :
    (l :: caseSiblings l).contains (simpleLower c)
      = (l :: caseSiblings l).contains (simpleLower d) := by
  cases h with
  | single => rw [Text.simpleLower_simpleLower]
  | finalSigma =>
    rw [Text.simpleLower_sigma, Text.simpleLower_finalSigma]
    exact Text.contains_siblings_sigma l

theorem CharTest.respects_lowersTo {test : CharTest} (h : test.folds = true) :
    test.Respects LowersTo := by
  intro c d hcd
  cases test with
  | any => rfl
  | anyButLineBreak =>
    have hbreak : (c == '\n') = (d == '\n') := by
      rw [Bool.eq_iff_iff, beq_iff_eq, beq_iff_eq]
      exact eq_lineBreak_iff hcd
    rw [accepts, accepts, bne, bne, hbreak]
  | literal fold negated code =>
    obtain rfl : fold = .full := beq_iff_eq.mp h
    rw [accepts, accepts]
    cases charOf? code with
    | none => rfl
    | some l =>
      dsimp only
      by_cases hcase : Fold.full.hasCase l = true
      · rw [if_pos hcase, if_pos hcase, Fold.siblings_full, Fold.lower_full, Fold.lower_full,
          contains_siblings_eq hcd]
        rfl
      · have hsame : (c == l) = (d == l) := by
          rw [Bool.eq_iff_iff, beq_iff_eq, beq_iff_eq]
          exact hcd.eq_iff_of_not_isCased (Bool.eq_false_iff.mpr hcase)
        rw [if_neg hcase, if_neg hcase, hsame]
  | set fold ascii negated members =>
    simp only [folds, Bool.and_eq_true, beq_iff_eq, Bool.not_eq_true'] at h
    obtain ⟨rfl, rfl⟩ := h
    rw [accepts, accepts]
    by_cases hcase : (Fold.full != .exact && members.any (Member.hasCase .full)) = true
    · have hfolded : Member.holdsFolded .full false (Fold.full.lower c)
          = Member.holdsFolded .full false (Fold.full.lower d) :=
        funext (Member.holdsFolded_eq hcd)
      rw [if_pos hcase, if_pos hcase, hfolded]
    · have hexactly : members.any (Member.holdsExactly false c)
          = members.any (Member.holdsExactly false d) := by
        have hnone : members.any (Member.hasCase .full) = false := Bool.eq_false_iff.mpr hcase
        rw [Bool.eq_iff_iff, List.any_eq_true, List.any_eq_true]
        refine exists_congr fun member => and_congr_right fun hmem => ?_
        rw [Member.holdsExactly_eq hcd (Bool.eq_false_iff.mpr (List.any_eq_false.mp hnone _ hmem))]
      rw [if_neg hcase, if_neg hcase, hexactly]

/-! ### Patterns -/

theorem Anchor.respects_of_folds {R : Char → Char → Prop} (hR : ∀ c d, R c d → LowersTo c d)
    {place : Anchor} (h : place.folds = true) : place.Respects R := by
  have hword {ascii : Bool} (hascii : (!ascii) = true) (c d : Char) (hcd : R c d) :
      ClassName.word.contains ascii c = ClassName.word.contains ascii d := by
    obtain rfl : ascii = false := by simpa using hascii
    exact ClassName.contains_eq (hR c d hcd) .word
  cases place with
  | textStart => trivial
  | textEnd => trivial
  | wordEdge ascii => exact hword h
  | noWordEdge ascii => exact hword h
  | _ => exact fun c d hcd => eq_lineBreak_iff (hR c d hcd)

namespace Node

variable {p : Node}

theorem respects_of_folds {R : Char → Char → Prop} (hR : ∀ c d, R c d → LowersTo c d)
    (h : p.folds = true) (href : p.refers = false ∨ Fold.Respects R .full) : p.Respects R := by
  have hpair {a b : Node} (ha : a.folds = true → (a.refers = false ∨ Fold.Respects R .full) →
        a.Respects R)
      (hb : b.folds = true → (b.refers = false ∨ Fold.Respects R .full) → b.Respects R)
      (h : (a.folds && b.folds) = true)
      (href : (a.refers || b.refers) = false ∨ Fold.Respects R .full) :
      a.Respects R ∧ b.Respects R := by
    rw [Bool.and_eq_true] at h
    rw [Bool.or_eq_false_iff] at href
    exact ⟨ha h.1 (href.imp_left And.left), hb h.2 (href.imp_left And.right)⟩
  induction p with
  | empty => trivial
  | char test => exact fun c d hcd => CharTest.respects_lowersTo h c d (hR c d hcd)
  | anchor place => exact place.respects_of_folds hR h
  | sequence first second ih₁ ih₂ => exact hpair ih₁ ih₂ h href
  | choice first second ih₁ ih₂ => exact hpair ih₁ ih₂ h href
  | conditional index yes no ih₁ ih₂ => exact hpair ih₁ ih₂ h href
  | group index body ih => exact ih h href
  | atomic body ih => exact ih h href
  | repetition greed least greatest body ih => exact ih h href
  | ahead positive body ih => exact ih h href
  | behind width positive body ih => exact ih h href
  | reference index fold width =>
    obtain rfl : fold = .full := beq_iff_eq.mp h
    exact href.resolve_left (by simp [refers])

/-- **A pattern that ignores case does not tell a character from its lower case.** -/
theorem respects_simpleLower (h : p.folds = true) :
    p.Respects fun c d => d = simpleLower c := by
  refine respects_of_folds (fun c d hd => hd ▸ .single c) h (.inr ?_)
  rintro a b c d rfl rfl
  simp only [Fold.lower, Text.simpleLower_simpleLower]

/-- If it does not refer to groups, it does not tell a character from what becomes of it in a text
in lower case. -/
theorem respects_lowersTo (h : p.folds = true) (hrefers : p.refers = false) :
    p.Respects LowersTo :=
  respects_of_folds (fun _ _ => id) h (.inl hrefers)

end Node

end DocView.Pattern
