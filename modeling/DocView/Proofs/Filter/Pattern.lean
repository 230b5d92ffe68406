import DocView.Filter.Evaluation
import DocView.Proofs.Pattern.Flags

/-!
# Matching a pattern

Null fields are not looked at. In any other one, a pattern is looked for in the text of the value
in lower case, and case is ignored besides. So it is found there just if it occurs in the text as it
stands, as long as no part of it tells a character from what has become of that one in lower case.

The parts that do come from groups of flags, which may have case matter or take the letters of ASCII
only, and from references to groups, which tell a sigma at the end of a word from another one. A
text with a dotted capital I is a different matter, since its lower case is longer.

A pattern may give characters by their names. Which names there are makes no difference here.

## Main results

* `Filter.evaluate_pattern` - when a pattern is found in a value just if it occurs in its text
-/

namespace DocView.Filter

open Pattern (Node KeepsCase tokens)
open Text (simpleLower)

variable {v filter : Value} {characters : Text.CharacterNames}

/-- Every character of the text is taken to lower case by itself. -/
theorem forall₂_of_toList_lower {s : String}
    (h : (Text.lower s).toList = s.toList.map simpleLower) :
    List.Forall₂ (fun c d => d = simpleLower c) s.toList (Text.lower s).toList := by
  rw [h, List.forall₂_map_right_iff]
  exact List.forall₂_same.mpr fun _ _ => rfl

theorem forall₂_lower {s : String} (h : 'İ' ∉ s.toList) :
    List.Forall₂ Text.LowersTo s.toList (Text.lower s).toList := by
  rw [Text.lower, String.toList_ofList]
  exact Text.forall₂_lowerFrom h []

theorem found?_eq_ok_iff {pattern text : String} {found : Bool} :
    Pattern.found? pattern text characters = .ok found ↔
      ∃ p, Pattern.parse pattern characters = .ok p ∧ p.occursIn text = found := by
  rw [Pattern.found?, bind_eq_ok]
  refine exists_congr fun p => and_congr_right fun _ => ⟨Except.ok.inj, ?_⟩
  rintro rfl
  rfl

/-- The pattern is looked for in the text in lower case. -/
theorem evaluate_of_found? {found : Bool} (hnull : ¬ v.isNull) (hunset : ¬ v.isUnset)
    (hblank : ¬ filter.isBlank)
    (h : Pattern.found? filter.text (Text.lower v.text) characters = .ok found) :
    evaluate v (some .regex) filter characters = .ok found := by
  simp [evaluate, hnull, hunset, hblank, Operator.isNullCheck, compare, matchesPattern,
    loweredText, h]

/-- **A pattern is found in a value just if it occurs in the text of the value**, although it is
looked for in lower case: if none of its parts tells corresponding characters apart, and in
particular if all of them ignore case. They do if no group of flags has case matter. Characters may
have any names. -/
theorem evaluate_pattern (characters : Text.CharacterNames) (v filter : Value) :
    (v.isNull ∨ v.isUnset → evaluate v (some .regex) filter characters = .ok false) ∧
    ∀ p, ¬ v.isNull → ¬ v.isUnset → ¬ filter.isBlank → Pattern.parse filter.text characters = .ok p →
      (∀ R : Char → Char → Prop, p.Respects R →
        List.Forall₂ R v.text.toList (Text.lower v.text).toList →
        evaluate v (some .regex) filter characters = .ok (p.occursIn v.text)) ∧
      (p.folds → 'İ' ∉ v.text.toList →
        p.refers = false ∨ (Text.lower v.text).toList = v.text.toList.map simpleLower →
        evaluate v (some .regex) filter characters = .ok (p.occursIn v.text)) ∧
      (KeepsCase (tokens filter.text.toList) → p.folds) := by
  refine ⟨fun habsent => ?_, fun p hnull hunset hblank hparse => ?_⟩
  · have hskip : (v.isNull || v.isUnset || filter.isBlank) = true := by
      rw [Bool.or_eq_true, Bool.or_eq_true]
      exact .inl habsent
    rw [evaluate, if_pos hskip]
    rfl
  have hfound {R : Char → Char → Prop} (hp : p.Respects R)
      (htext : List.Forall₂ R v.text.toList (Text.lower v.text).toList) :
      evaluate v (some .regex) filter characters = .ok (p.occursIn v.text) := by
    refine evaluate_of_found? hnull hunset hblank (found?_eq_ok_iff.mpr ⟨p, hparse, ?_⟩)
    rw [Node.occursIn_eq htext hp]
  refine ⟨fun R hp htext => hfound hp htext, fun hfolds hdotted hsingle => ?_,
    fun hkeeps => Pattern.folds_of_parse hkeeps hparse⟩
  rcases hsingle with hrefers | hletters
  · exact hfound (Node.respects_lowersTo hfolds hrefers) (forall₂_lower hdotted)
  · exact hfound (Node.respects_simpleLower hfolds) (forall₂_of_toList_lower hletters)

/-- A letter is found whatever its case, and an exact one in a text that is in lower case. Nothing
is found in a null field. -/
theorem evaluate_pattern_letters :
    evaluate .null (some .regex) (.str "b") = .ok false ∧
      evaluate (.str "Ba") (some .regex) (.str "b") = .ok true ∧
      evaluate (.str "ab") (some .regex) (.str "(?-i:b)") = .ok true := by
  refine ⟨(evaluate_pattern .ascii .null (.str "b")).1 (.inl rfl), ?_, ?_⟩
  · obtain ⟨p, hparse, hoccurs⟩ := found?_eq_ok_iff.mp (by decide +kernel :
      Pattern.found? "b" "Ba" = .ok true)
    have hfound := (evaluate_pattern .ascii (.str "Ba") (.str "b")).2 p (by decide) (by decide)
      (by decide) hparse
    have hopen : .plain '(' ∉ tokens "b".toList := by decide +kernel
    have hletters : (Text.lower "Ba").toList = "Ba".toList.map simpleLower := by decide +kernel
    have hfolds := hfound.2.2 (Pattern.keepsCase_of_notMem hopen)
    rw [hfound.2.1 hfolds (by decide) (.inr hletters)]
    exact congrArg _ hoccurs
  · obtain ⟨p, hparse, hoccurs⟩ := found?_eq_ok_iff.mp (by decide +kernel :
      Pattern.found? "(?-i:b)" "ab" = .ok true)
    have hfound := (evaluate_pattern .ascii (.str "ab") (.str "(?-i:b)")).2 p (by decide) (by decide)
      (by decide) hparse
    have hlower : Text.lower "ab" = "ab" := by decide +kernel
    have hsame : List.Forall₂ Eq "ab".toList (Text.lower "ab").toList := by
      rw [hlower]
      exact List.forall₂_eq_eq_eq ▸ rfl
    rw [hfound.1 Eq p.respects_eq hsame]
    exact congrArg _ hoccurs

/-- A doubled character, for which a group is referred to. -/
def doubled : Node :=
  .sequence (.sequence .empty (.group 1 (.sequence .empty (.char .anyButLineBreak))))
    (.reference 1 .full ⟨1, 1⟩)

theorem occursIn_doubled {a b : Char} (ha : a ≠ '\n') (hb : b ≠ '\n') :
    doubled.occursIn (String.ofList [a, b]) = (simpleLower a == simpleLower b) := by
  by_cases h : simpleLower a = simpleLower b
  all_goals simp [doubled, Node.occursIn, List.range_succ, Node.run, Pattern.CharTest.accepts, ha,
    hb, h, Pattern.Cursor.group?, Pattern.Cursor.openGroup, Pattern.Cursor.closeGroup,
    Pattern.Cursor.moveTo, Pattern.repeatsAt]

/-- Each of the conditions is needed: about null, about exact case, about ASCII, about the text that
gets longer, and about references where a sigma ends a word. -/
theorem not_evaluate_pattern_lowered :
    (Pattern.found? "a*" Value.null.text = .ok true ∧
      evaluate .null (some .regex) (.str "a*") = .ok false) ∧
    (Pattern.found? "(?-i:A)" "A" = .ok true ∧
      evaluate (.str "A") (some .regex) (.str "(?-i:A)") = .ok false) ∧
    (Pattern.found? "(?a)k" "\u212a" = .ok false ∧
      evaluate (.str "\u212a") (some .regex) (.str "(?a)k") = .ok true) ∧
    (Pattern.found? "^.$" "İ" = .ok true ∧
      evaluate (.str "İ") (some .regex) (.str "^.$") = .ok false) ∧
    (Pattern.found? "(.)\\1" "ΣΣ" = .ok true ∧
      evaluate (.str "ΣΣ") (some .regex) (.str "(.)\\1") = .ok false) := by
  have hkelvin : Pattern.found? "(?a)k" (Text.lower "\u212a") = .ok true := by
    rw [Text.lower_kelvin]
    decide +kernel
  have hdoubled : Pattern.parse "(.)\\1" = .ok doubled := rfl
  refine ⟨⟨by decide +kernel, by decide +kernel⟩, ⟨by decide +kernel, by decide +kernel⟩,
    ⟨by decide +kernel, evaluate_of_found? (by decide) (by decide) (by decide) hkelvin⟩,
    ⟨by decide +kernel, by decide +kernel⟩, ?_, ?_⟩
  · refine found?_eq_ok_iff.mpr ⟨doubled, hdoubled, ?_⟩
    refine (occursIn_doubled (a := 'Σ') (b := 'Σ') (by decide) (by decide)).trans ?_
    exact beq_self_eq_true _
  · refine evaluate_of_found? (by decide) (by decide) (by decide)
      (found?_eq_ok_iff.mpr ⟨doubled, hdoubled, ?_⟩)
    show doubled.occursIn (Text.lower "ΣΣ") = false
    rw [Text.lower_sigmas]
    refine (occursIn_doubled (a := 'σ') (b := 'ς') (by decide) (by decide)).trans ?_
    rw [Text.simpleLower_smallSigma, Text.simpleLower_finalSigma]
    decide

end DocView.Filter
