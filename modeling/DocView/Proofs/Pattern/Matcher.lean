import DocView.Pattern.Matcher
import Mathlib.Data.List.Forall2

/-!
# Matching in corresponding texts

A match is made of positions. It does not hold characters, and it looks at them in three places
only: where one character is tested, at the edges of lines and words, and where a group is referred
to. If the characters of one text correspond to those of another, place by place, and none of the
three tells characters from those that correspond to them, then a pattern matches in both texts
alike: from the same positions to the same positions, whatever is to be matched after it.

## Main definitions

* `Pattern.Corresponds` - texts whose characters correspond
* `Pattern.Node.Respects` - a pattern that does not tell characters from corresponding ones

## Main results

* `Pattern.Node.run_eq` - such a pattern matches alike in corresponding texts
* `Pattern.Node.occursIn_eq`
-/

namespace DocView.Pattern

variable {R : Char → Char → Prop} {text other : Array Char}

/-- Texts whose characters correspond, place by place. -/
structure Corresponds (R : Char → Char → Prop) (text other : Array Char) : Prop where
  /-- They have the same length. -/
  size : text.size = other.size
  /-- The characters at one place correspond. -/
  chars : ∀ (i : Nat) (c d : Char), text[i]? = some c → other[i]? = some d → R c d

/-! ### Patterns that respect a correspondence -/

/-- A test that does not tell characters from corresponding ones. -/
def CharTest.Respects (R : Char → Char → Prop) (test : CharTest) : Prop :=
  ∀ c d, R c d → test.accepts c = test.accepts d

/-- An anchor that does not tell characters from corresponding ones: it looks for line breaks, or
for characters of words. -/
def Anchor.Respects (R : Char → Char → Prop) : Anchor → Prop
  | .textStart | .textEnd => True
  | .lineStart | .beforeFinalBreak | .lineEnd => ∀ c d, R c d → (c = '\n' ↔ d = '\n')
  | .wordEdge ascii | .noWordEdge ascii =>
    ∀ c d, R c d → ClassName.word.contains ascii c = ClassName.word.contains ascii d

/-- A comparison of characters that gives the same for corresponding ones. -/
def Fold.Respects (R : Char → Char → Prop) (fold : Fold) : Prop :=
  ∀ a b c d, R a c → R b d → (fold.lower a = fold.lower b ↔ fold.lower c = fold.lower d)

/-- A pattern whose parts do not tell characters from corresponding ones. -/
def Node.Respects (R : Char → Char → Prop) : Node → Prop
  | .empty => True
  | .char test => test.Respects R
  | .anchor place => place.Respects R
  | .sequence first second | .choice first second | .conditional _ first second =>
    first.Respects R ∧ second.Respects R
  | .group _ body | .atomic body | .repetition _ _ _ body | .ahead _ body | .behind _ _ body =>
    body.Respects R
  | .reference _ fold _ => fold.Respects R

/-- No pattern tells a character from itself. -/
theorem Node.respects_eq (p : Node) : p.Respects Eq := by
  induction p with
  | empty => trivial
  | char test => exact fun c d hcd => hcd ▸ rfl
  | anchor place => cases place with
    | textStart => trivial
    | textEnd => trivial
    | wordEdge ascii => exact fun c d hcd => hcd ▸ rfl
    | noWordEdge ascii => exact fun c d hcd => hcd ▸ rfl
    | _ => exact fun c d hcd => hcd ▸ Iff.rfl
  | sequence first second ih₁ ih₂ => exact ⟨ih₁, ih₂⟩
  | choice first second ih₁ ih₂ => exact ⟨ih₁, ih₂⟩
  | conditional index yes no ih₁ ih₂ => exact ⟨ih₁, ih₂⟩
  | group index body ih => exact ih
  | atomic body ih => exact ih
  | repetition greed least greatest body ih => exact ih
  | ahead positive body ih => exact ih
  | behind width positive body ih => exact ih
  | reference index fold width => exact fun a b c d hac hbd => hac ▸ hbd ▸ Iff.rfl

/-! ### Anchors and references -/

/-- At a place there are corresponding characters, or none in both texts. -/
theorem Corresponds.getElem?_cases (h : Corresponds R text other) (i : Nat) :
    (text[i]? = none ∧ other[i]? = none) ∨
      ∃ c d, text[i]? = some c ∧ other[i]? = some d ∧ R c d := by
  have hsize := h.size
  by_cases hi : i < text.size
  · have htext : text[i]? = some text[i] := Array.getElem?_eq_getElem hi
    have hother : other[i]? = some other[i] := Array.getElem?_eq_getElem (hsize ▸ hi)
    exact .inr ⟨_, _, htext, hother, h.chars i _ _ htext hother⟩
  · exact .inl ⟨Array.getElem?_eq_none (by omega), Array.getElem?_eq_none (by omega)⟩

theorem Corresponds.lineBreak_eq (h : Corresponds R text other)
    (hbreak : ∀ c d, R c d → (c = '\n' ↔ d = '\n')) (i : Nat) :
    (text[i]? == some '\n') = (other[i]? == some '\n') := by
  rcases h.getElem?_cases i with ⟨htext, hother⟩ | ⟨c, d, htext, hother, hcd⟩
  · rw [htext, hother]
  · rw [htext, hother, Bool.eq_iff_iff]
    simpa using hbreak c d hcd

theorem Corresponds.inWord_eq (h : Corresponds R text other) {ascii : Bool}
    (hword : ∀ c d, R c d → ClassName.word.contains ascii c = ClassName.word.contains ascii d)
    (i : Nat) : inWord text ascii i = inWord other ascii i := by
  unfold inWord
  rcases h.getElem?_cases i with ⟨htext, hother⟩ | ⟨c, d, htext, hother, hcd⟩
  · rw [htext, hother]
  · rw [htext, hother]
    exact hword c d hcd

theorem Corresponds.atWordEdge_eq (h : Corresponds R text other) {ascii : Bool}
    (hword : ∀ c d, R c d → ClassName.word.contains ascii c = ClassName.word.contains ascii d)
    (i : Nat) : atWordEdge text ascii i = atWordEdge other ascii i := by
  rw [atWordEdge, atWordEdge, h.inWord_eq hword, h.inWord_eq hword]

theorem Corresponds.holds_eq (h : Corresponds R text other) {place : Anchor}
    (hplace : place.Respects R) (i : Nat) : place.holds text i = place.holds other i := by
  have hempty : text.isEmpty = other.isEmpty := by rw [Array.isEmpty, Array.isEmpty, h.size]
  cases place with
  | textStart => rfl
  | textEnd => rw [Anchor.holds, Anchor.holds, h.size]
  | lineStart => rw [Anchor.holds, Anchor.holds, h.lineBreak_eq hplace]
  | lineEnd => rw [Anchor.holds, Anchor.holds, h.lineBreak_eq hplace, h.size]
  | beforeFinalBreak => rw [Anchor.holds, Anchor.holds, h.lineBreak_eq hplace, h.size]
  | wordEdge ascii => rw [Anchor.holds, Anchor.holds, h.atWordEdge_eq hplace, hempty]
  | noWordEdge ascii => rw [Anchor.holds, Anchor.holds, h.atWordEdge_eq hplace, hempty]

theorem Corresponds.repeatsAt_eq (h : Corresponds R text other) {fold : Fold}
    (hfold : fold.Respects R) (first second count : Nat) :
    repeatsAt text fold first second count = repeatsAt other fold first second count := by
  induction count generalizing first second with
  | zero => rfl
  | succ count ih =>
    unfold repeatsAt
    rcases h.getElem?_cases first with ⟨htext, hother⟩ | ⟨a, c, htext, hother, hac⟩
    · rw [htext, hother]
    rcases h.getElem?_cases second with ⟨htext', hother'⟩ | ⟨b, d, htext', hother', hbd⟩
    · rw [htext', hother', htext, hother]
    · have hsame : (fold.lower a == fold.lower b) = (fold.lower c == fold.lower d) := by
        rw [Bool.eq_iff_iff, beq_iff_eq, beq_iff_eq]
        exact hfold a b c d hac hbd
      rw [htext, hother, htext', hother']
      simp only [hsame, ih]

/-! ### Matching -/

namespace Node

variable {p : Node}

/-- **A pattern that respects the correspondence matches alike** in corresponding texts. -/
theorem run_eq (h : Corresponds R text other) (hp : p.Respects R) : p.run text = p.run other := by
  induction p with
  | empty => rfl
  | char test =>
    funext c after
    unfold run
    rcases h.getElem?_cases c.position with ⟨htext, hother⟩ | ⟨x, y, htext, hother, hxy⟩
    · rw [htext, hother]
    · rw [htext, hother]
      simp only [hp x y hxy]
  | anchor place =>
    funext c after
    rw [run, run, h.holds_eq hp]
  | sequence first second ih₁ ih₂ =>
    funext c after
    rw [run, run, ih₁ hp.1, ih₂ hp.2]
  | choice first second ih₁ ih₂ =>
    funext c after
    rw [run, run, ih₁ hp.1, ih₂ hp.2]
  | conditional index yes no ih₁ ih₂ =>
    funext c after
    rw [run, run, ih₁ hp.1, ih₂ hp.2]
  | group index body ih =>
    funext c after
    rw [run, run, ih hp]
  | atomic body ih =>
    funext c after
    rw [run, run, ih hp]
  | repetition greed least greatest body ih =>
    funext c after
    rw [run, run, ih hp, h.size]
  | ahead positive body ih =>
    funext c after
    cases positive with
    | false => rw [run, run, ih hp]
    | true => rw [run, run, ih hp]
  | behind width positive body ih =>
    funext c after
    cases positive with
    | false => rw [run, run, ih hp]
    | true => rw [run, run, ih hp]
  | reference index fold width =>
    funext c after
    simp only [run, h.repeatsAt_eq hp]

/-- It occurs in one text if it occurs in the other. -/
theorem occursIn_eq {s t : String} (h : List.Forall₂ R s.toList t.toList) (hp : p.Respects R) :
    p.occursIn s = p.occursIn t := by
  have hcorresponds : Corresponds R s.toList.toArray t.toList.toArray := by
    refine ⟨by simpa using h.length_eq, fun i c d hc hd => ?_⟩
    rw [List.getElem?_toArray] at hc hd
    obtain ⟨hi, rfl⟩ := List.getElem?_eq_some_iff.mp hc
    obtain ⟨hi', rfl⟩ := List.getElem?_eq_some_iff.mp hd
    exact h.get hi hi'
  simp only [occursIn, run_eq hcorresponds hp, hcorresponds.size]

end Node

end DocView.Pattern
