import DocView.Proofs.Json.RoundTrip
import DocView.Proofs.Json.Quoted
import DocView.Query.Parse

/-!
# Fences inside quotes

Fences are removed from the text of a query before anything is read, so they are removed wherever
they stand: around the query, where they are meant to be, and inside the quotes of its names and
texts as well. What comes out is what would be written if the fences were removed from each name and
each text first. For none of the characters that make up a fence and its tag is ever escaped, an
escape has no mark in it, and the quote that closes a text also closes a tag.

Three marks in a row are a fence. Removing fences does not make new ones: a mark that is left over
stands before a character that is no mark, and that character is kept.

## Main definitions

* `Query.fence`, `Query.unfenced`
* `Query.Strips` - what is left of a part of a text, whatever follows it

## Main results

* `Query.fenceInduction` - induction along the removal of fences
* `Query.removeFences_of_not_infix`, `Query.not_infix_removeFences`
* `Query.removeFences_render`
-/

namespace DocView.Query

open Json

/-- Three marks in a row. -/
def fence : List Char := List.replicate 3 fenceMark

variable {b : Bool} {c : Char} {cs rest : List Char}

/-! ### One step -/

theorem isTagChar_fenceMark : isTagChar fenceMark = false := by decide

theorem removeFences_tag (hc : isTagChar c = true) (rest : List Char) :
    removeFences true (c :: rest) = removeFences true rest := by
  rw [removeFences.eq_def]
  simp [hc]

theorem removeFences_fence (b : Bool) (rest : List Char) :
    removeFences b (fence ++ rest) = removeFences true rest := by
  show removeFences b (fenceMark :: fenceMark :: fenceMark :: rest) = _
  rw [removeFences, isTagChar_fenceMark, Bool.and_false, if_neg Bool.false_ne_true, if_pos rfl,
    if_pos ⟨rfl, rfl⟩]

/-- A character that is no part of a tag or of a fence is kept, and ends a tag. -/
theorem removeFences_keep (htag : b = false ∨ isTagChar c = false)
    (hfence : ¬ fence <+: c :: rest) :
    removeFences b (c :: rest) = c :: removeFences false rest := by
  have hand : (b && isTagChar c) = false := by
    rcases htag with rfl | hc
    · rfl
    · rw [hc, Bool.and_false]
  rw [removeFences.eq_def]
  dsimp only
  rw [hand, if_neg Bool.false_ne_true]
  split
  next hc =>
    -- A mark: what follows is not two more of them, however much follows.
    subst hc
    match rest with
    | [] => rfl
    | [a] => by_cases ha : a = fenceMark <;> simp [removeFences, ha]
    | a :: b :: more =>
      have hmarks : ¬ (a = fenceMark ∧ b = fenceMark) := by
        rintro ⟨rfl, rfl⟩
        exact hfence ⟨more, rfl⟩
      dsimp only
      rw [if_neg hmarks]
  next => rfl

/-- Induction along the removal of fences: a character of a tag, a fence, or a character that is
kept. -/
@[elab_as_elim]
theorem fenceInduction {motive : Bool → List Char → Prop} (nil : ∀ b, motive b [])
    (tag : ∀ c rest, isTagChar c = true → motive true rest → motive true (c :: rest))
    (fence : ∀ b rest, motive true rest → motive b (fence ++ rest))
    (keep : ∀ b c rest, b = false ∨ isTagChar c = false → ¬ Query.fence <+: c :: rest →
      motive false rest → motive b (c :: rest)) : ∀ b cs, motive b cs
  | b, [] => nil b
  | b, c :: rest => by
    by_cases hfence : Query.fence <+: c :: rest
    · obtain ⟨more, hmore⟩ := hfence
      rw [← hmore]
      have hlength : more.length < (c :: rest).length := by
        rw [← hmore, List.length_append]
        exact Nat.lt_add_of_pos_left (by decide)
      exact fence b more (fenceInduction nil tag fence keep true more)
    · by_cases htag : b = false ∨ isTagChar c = false
      · exact keep b c rest htag hfence (fenceInduction nil tag fence keep false rest)
      · obtain ⟨hb, hc⟩ := not_or.mp htag
        rw [Bool.not_eq_false] at hb hc
        subst hb
        exact tag c rest hc (fenceInduction nil tag fence keep true rest)
termination_by _ cs => cs.length
decreasing_by all_goals first | exact hlength | simp

/-! ### Texts without fences -/

/-- Where there is no fence, nothing is removed. -/
theorem removeFences_of_not_infix (h : ¬ fence <:+: cs) : removeFences false cs = cs := by
  induction cs with
  | nil => rw [removeFences]
  | cons c rest ih =>
    rw [List.infix_cons_iff, not_or] at h
    rw [removeFences_keep (.inl rfl) h.1, ih h.2]

theorem replicate_prefix_fence {n : Nat} (hn : n ≤ 3) : List.replicate n fenceMark <+: fence :=
  List.prefix_replicate_iff.mpr ⟨by rwa [List.length_replicate], by rw [List.length_replicate]⟩

/-- Marks that come first when fences have been removed came first before. -/
theorem prefix_of_prefix_removeFences {n : Nat} (hn : n ≤ 3)
    (h : List.replicate n fenceMark <+: removeFences false cs) :
    List.replicate n fenceMark <+: cs := by
  induction n generalizing cs with
  | zero => exact List.nil_prefix
  | succ n ih =>
    by_cases hfence : fence <+: cs
    · exact (replicate_prefix_fence hn).trans hfence
    · cases cs with
      | nil => rwa [removeFences] at h
      | cons c rest =>
        rw [removeFences_keep (.inl rfl) hfence, List.replicate_succ, List.cons_prefix_cons] at h
        rw [List.replicate_succ, List.cons_prefix_cons]
        exact h.imp_right (ih (Nat.le_of_succ_le hn))

/-- **No fence is left** where fences have been removed. -/
theorem not_infix_removeFences (b : Bool) (cs : List Char) : ¬ fence <:+: removeFences b cs := by
  induction b, cs using fenceInduction with
  | nil b =>
    rw [removeFences]
    decide
  | tag c rest hc ih => rwa [removeFences_tag hc]
  | fence b rest ih => rwa [removeFences_fence]
  | keep b c rest htag hfence ih =>
    have hfirst : ¬ fence <+: removeFences false (c :: rest) :=
      fun h => hfence (prefix_of_prefix_removeFences (by omega) h)
    rw [removeFences_keep (.inl rfl) hfence] at hfirst
    rw [removeFences_keep htag hfence, List.infix_cons_iff]
    exact not_or.mpr ⟨hfirst, ih⟩

/-- A text without its fences. -/
def unfenced (s : String) : String := String.ofList (removeFences false s.toList)

/-- The texts that stay as they are are those without fences. -/
theorem unfenced_eq_self_iff {s : String} : unfenced s = s ↔ ¬ fence <:+: s.toList := by
  constructor
  · intro h
    rw [← h, unfenced, String.toList_ofList]
    exact not_infix_removeFences false s.toList
  · intro h
    rw [unfenced, removeFences_of_not_infix h, String.ofList_toList]

/-! ### Escapes -/

/-- Letters, digits and the two other characters of tags are printable ASCII. -/
theorem toNat_of_isTagChar (hc : isTagChar c = true) : 32 ≤ c.toNat ∧ c.toNat < 127 := by
  have hrange : ∀ {a b : Char}, 32 ≤ a.toNat → b.toNat < 127 →
      c.val ≥ a.val ∧ c.val ≤ b.val → 32 ≤ c.toNat ∧ c.toNat < 127 := by
    rintro a b ha hb ⟨hlow, hhigh⟩
    exact ⟨Nat.le_trans ha (UInt32.le_iff_toNat_le.mp hlow),
      Nat.lt_of_le_of_lt (UInt32.le_iff_toNat_le.mp hhigh) hb⟩
  rcases Bool.or_eq_true_iff.mp hc with hc | hminus
  · rcases Bool.or_eq_true_iff.mp hc with hc | hunderscore
    · rcases Bool.or_eq_true_iff.mp hc with hletter | hdigit
      · rcases Bool.or_eq_true_iff.mp hletter with hupper | hlower
        · exact hrange (by decide) (by decide) (of_decide_eq_true hupper)
        · obtain ⟨hlow, hhigh⟩ := Bool.and_eq_true_iff.mp hlower
          exact hrange (by decide) (by decide)
            ⟨of_decide_eq_true hlow, of_decide_eq_true hhigh⟩
      · obtain ⟨hlow, hhigh⟩ := Bool.and_eq_true_iff.mp hdigit
        exact hrange (by decide) (by decide) ⟨of_decide_eq_true hlow, of_decide_eq_true hhigh⟩
    · rw [eq_of_beq hunderscore]
      decide
  · rw [eq_of_beq hminus]
    decide

/-- A character is written as it is, or with a backslash in front. None that stands in a tag or a
fence is written with a backslash, and no mark comes into the text that way. -/
theorem escapedChar_eq_singleton_or (c : Char) :
    escapedChar c = [c] ∨ isTagChar c = false ∧ c ≠ fenceMark ∧
      ∃ more, escapedChar c = '\\' :: more ∧ fenceMark ∉ more := by
  rcases escapedChar_cases c with ⟨h, -⟩ | ⟨letter, h, hletter⟩ | ⟨h, hrange⟩
  · exact .inl h
  · have hall : ∀ p ∈ letterEscapes,
        isTagChar p.1 = false ∧ p.1 ≠ fenceMark ∧ fenceMark ∉ [p.2] := by decide
    obtain ⟨htag, hmark, hmore⟩ := hall _ hletter
    exact .inr ⟨htag, hmark, [letter], h, hmore⟩
  · have htag : isTagChar c = false :=
      Bool.eq_false_iff.mpr fun hc => hrange (toNat_of_isTagChar hc)
    have hmark : c ≠ fenceMark := by
      rintro rfl
      exact hrange (by decide)
    obtain ⟨more, hunits, hmore⟩ := exists_unitEscapes_eq_cons c
    refine .inr ⟨htag, hmark, more, h.trans hunits, fun hmem => ?_⟩
    obtain ⟨n, hn⟩ := hmore fenceMark hmem
    exact ne_of_mem_unitEscape hn (by decide) (by decide)
      (fun _ => Nat.digitChar_ne _ (by decide)) rfl

/-- A character of a tag or a mark stands for itself. -/
theorem escapedChar_eq_singleton (hc : isTagChar c = true ∨ c = fenceMark) :
    escapedChar c = [c] := by
  rcases escapedChar_eq_singleton_or c with h | ⟨htag, hmark, -⟩
  · exact h
  · exact absurd hc (not_or.mpr ⟨by simp [htag], hmark⟩)

/-- Marks at the start of a quoted text are marks at the start of the text. -/
theorem prefix_of_prefix_escaped {n : Nat} {tail : List Char}
    (h : List.replicate n fenceMark <+: cs.flatMap escapedChar ++ '"' :: tail) :
    List.replicate n fenceMark <+: cs := by
  induction n generalizing cs with
  | zero => exact List.nil_prefix
  | succ n ih =>
    rw [List.replicate_succ] at h
    cases cs with
    | nil => exact absurd (List.cons_prefix_cons.mp h).1 (by decide)
    | cons c rest =>
      rw [List.flatMap_cons] at h
      rcases escapedChar_eq_singleton_or c with hc | ⟨-, -, more, hc, -⟩ <;>
        rw [hc, List.append_assoc, List.cons_append, List.cons_prefix_cons] at h
      · rw [List.replicate_succ, List.cons_prefix_cons]
        exact h.imp_right ih
      · exact absurd h.1 (by decide)

/-! ### What is left of a part -/

/-- What is left of a part of a text when fences are removed, whatever follows it. -/
def Strips (cs left : List Char) : Prop :=
  ∀ rest, removeFences false (cs ++ rest) = left ++ removeFences false rest

theorem Strips.append {ds left left' : List Char} (hcs : Strips cs left) (hds : Strips ds left') :
    Strips (cs ++ ds) (left ++ left') := by
  intro rest
  rw [List.append_assoc, hcs, hds, List.append_assoc]

theorem not_prefix_of_ne (hc : c ≠ fenceMark) : ¬ fence <+: c :: rest :=
  fun h => hc (List.cons_prefix_cons.mp h).1.symm

/-- Nothing is removed from a part without marks. -/
theorem strips_of_notMem (h : fenceMark ∉ cs) : Strips cs cs := by
  intro rest
  induction cs with
  | nil => rfl
  | cons c cs ih =>
    obtain ⟨hc, hcs⟩ := not_or.mp (List.mem_cons.not.mp h)
    rw [List.cons_append, removeFences_keep (.inl rfl) (not_prefix_of_ne (Ne.symm hc)), ih hcs,
      List.cons_append]

/-- **Fences are removed from a quoted text as they are from the text.** The quote that closes the
text ends a tag. -/
theorem removeFences_escaped (b : Bool) (cs tail : List Char) :
    removeFences b (cs.flatMap escapedChar ++ '"' :: tail)
      = (removeFences b cs).flatMap escapedChar ++ '"' :: removeFences false tail := by
  induction b, cs using fenceInduction with
  | nil b =>
    rw [removeFences]
    exact removeFences_keep (.inr rfl) (not_prefix_of_ne (by decide))
  | tag c rest hc ih =>
    rw [List.flatMap_cons, escapedChar_eq_singleton (.inl hc), List.append_assoc,
      List.singleton_append, removeFences_tag hc, removeFences_tag hc, ih]
  | fence b rest ih =>
    have hfence : fence.flatMap escapedChar = fence := by decide
    rw [List.flatMap_append, hfence, List.append_assoc, removeFences_fence, removeFences_fence, ih]
  | keep b c rest htag hfence ih =>
    rw [removeFences_keep htag hfence, List.flatMap_cons, List.flatMap_cons, List.append_assoc,
      List.append_assoc]
    rcases escapedChar_eq_singleton_or c with hc | ⟨-, -, more, hc, hmore⟩
    · have hfirst : ¬ fence <+: c :: (rest.flatMap escapedChar ++ '"' :: tail) := by
        intro h
        have hescaped : fence <+: (c :: rest).flatMap escapedChar ++ '"' :: tail := by
          rwa [List.flatMap_cons, hc, List.append_assoc]
        exact hfence (prefix_of_prefix_escaped hescaped)
      rw [hc, List.singleton_append, List.singleton_append, removeFences_keep htag hfirst, ih]
    · rw [hc, List.cons_append, List.cons_append,
        removeFences_keep (.inr rfl) (not_prefix_of_ne (by decide)), strips_of_notMem hmore, ih]

theorem strips_quoted (s : String) : Strips (quoted s).toList (quoted (unfenced s)).toList := by
  intro rest
  rw [toList_quoted, toList_quoted, unfenced, String.toList_ofList]
  simp only [List.cons_append, List.append_assoc, List.nil_append]
  rw [removeFences_keep (.inl rfl) (not_prefix_of_ne (by decide)), removeFences_escaped]

/-! ### Written values -/

section

variable {style : Style} {depth : Nat}

theorem fenceMark_notMem_of_isSpace (h : IsSpace cs) : fenceMark ∉ cs :=
  fun hmem => absurd (h _ hmem) (by decide)

theorem fenceMark_notMem_of_isNumeralText (h : IsNumeralText cs) : fenceMark ∉ cs :=
  fun hmem => absurd (h _ hmem) (by decide)

/-- What separates two parts of a container has no mark. -/
theorem fenceMark_notMem_separator {separator : Char} {space : List Char}
    (hseparator : fenceMark ≠ separator) (hspace : IsSpace space) :
    fenceMark ∉ separator :: space :=
  List.not_mem_cons_of_ne_of_not_mem hseparator (fenceMark_notMem_of_isSpace hspace)

theorem strips_joined (hstyle : style.Readable) {parts parts' : List String}
    (hparts : List.Forall₂ (fun part part' => Strips part.toList part'.toList) parts parts') :
    Strips (joined style depth parts) (joined style depth parts') := by
  obtain ⟨space, hseparator, hspace⟩ := hstyle.separator depth
  have hmark : fenceMark ∉ (style.comma ++ style.lineBreak depth).toList :=
    hseparator ▸ fenceMark_notMem_separator (by decide) hspace
  induction hparts with
  | nil => exact strips_of_notMem (by simp [joined])
  | cons hpart hmore ih =>
    cases hmore with
    | nil => rwa [joined_singleton, joined_singleton]
    | cons =>
      rw [joined_cons_cons, joined_cons_cons]
      exact hpart.append ((strips_of_notMem hmark).append ih)

theorem strips_enclose (hstyle : style.Readable) {opening closing : String}
    (hopening : fenceMark ∉ opening.toList) (hclosing : fenceMark ∉ closing.toList)
    {parts parts' : List String}
    (hparts : List.Forall₂ (fun part part' => Strips part.toList part'.toList) parts parts') :
    Strips (style.enclose depth opening closing parts).toList
      (style.enclose depth opening closing parts').toList := by
  have hbreak : ∀ depth, Strips (style.lineBreak depth).toList (style.lineBreak depth).toList :=
    fun depth => strips_of_notMem (fenceMark_notMem_of_isSpace (style.isSpace_lineBreak depth))
  cases hparts with
  | nil =>
    refine strips_of_notMem ?_
    simp [Style.enclose, hopening, hclosing]
  | cons hpart hmore =>
    rw [Style.toList_enclose style depth opening closing (List.cons_ne_nil _ _),
      Style.toList_enclose style depth opening closing (List.cons_ne_nil _ _)]
    exact (strips_of_notMem hopening).append
      ((((hbreak _).append (strips_joined hstyle (.cons hpart hmore))).append
        (hbreak _)).append (strips_of_notMem hclosing))

theorem strips_member (hstyle : style.Readable) (name : String) {part part' : String}
    (hpart : Strips part.toList part'.toList) :
    Strips (quoted name ++ style.colon ++ part).toList
      (quoted (unfenced name) ++ style.colon ++ part').toList := by
  obtain ⟨space, hcolon, hspace⟩ := hstyle.colon
  have hmark : fenceMark ∉ style.colon.toList :=
    hcolon ▸ fenceMark_notMem_separator (by decide) hspace
  simp only [String.toList_append]
  exact ((strips_quoted name).append (strips_of_notMem hmark)).append hpart

/-- **What is left of a written value** is the value written with its names and texts unfenced. -/
theorem strips_renderAt (hstyle : style.Readable) {double : Binary64 → Prop} {v : Value}
    (hv : v.IsData double) (depth : Nat) :
    Strips (renderAt style depth v).toList (renderAt style depth (v.mapTexts unfenced)).toList := by
  induction hv generalizing depth with
  | null => exact strips_of_notMem (by rw [renderAt]; decide)
  | bool b => exact strips_of_notMem (by cases b <;> rw [renderAt] <;> decide)
  | int n =>
    rw [Value.mapTexts, renderAt]
    · exact strips_of_notMem (fenceMark_notMem_of_isNumeralText (isNumeralText_intText n))
    all_goals simp
  | @float x _ =>
    rw [Value.mapTexts, renderAt]
    · exact strips_of_notMem (fenceMark_notMem_of_isNumeralText (isNumeralText_floatText x))
    all_goals simp
  | str s =>
    rw [Value.mapTexts, renderAt, renderAt]
    exact strips_quoted s
  | list _ ih =>
    rw [Value.mapTexts, renderAt, renderAt, Value.mapItemTexts_eq_map, renderItems_eq_map,
      renderItems_eq_map]
    refine strips_enclose hstyle (by decide) (by decide) ?_
    rw [List.map_map, List.forall₂_map_left_iff, List.forall₂_map_right_iff, List.forall₂_same]
    exact fun v hv => ih v hv (depth + 1)
  | object _ _ ih =>
    rw [Value.mapTexts, renderAt, renderAt, Value.mapMemberTexts_eq_map, renderMembers_eq_map,
      renderMembers_eq_map]
    refine strips_enclose hstyle (by decide) (by decide) ?_
    rw [List.map_map, List.forall₂_map_left_iff, List.forall₂_map_right_iff, List.forall₂_same]
    exact fun entry hentry => strips_member hstyle entry.1 (ih entry hentry (depth + 1))

/-- **Fences are removed from a written value as they are from its names and texts.** -/
theorem removeFences_render (hstyle : style.Readable) {double : Binary64 → Prop} {v : Value}
    (hv : v.IsData double) :
    removeFences false (render style v).toList = (render style (v.mapTexts unfenced)).toList := by
  have hleft := strips_renderAt hstyle hv 0 []
  rwa [List.append_nil, removeFences, List.append_nil] at hleft

end

end DocView.Query
