import DocView.Proofs.Query.Fence
import DocView.Proofs.Store.Identifier
import DocView.Proofs.Text.Split

/-!
# Queries in fenced blocks

A program that writes a query often puts it into a block: a fence with the tag of a language, a line
break, the query, a line break and a fence, with blanks around the whole. Nothing of the block is
left when its fences have been removed and it has been stripped, and nothing of the query is lost
but the blanks around it.

What decides is what stands next to the two fences. The line break behind the first one ends its
tag, so a first line of the query that could be a tag is kept. The line break in front of the
second one keeps it apart from marks at the end of the query, so two of these are never read
together with one of the fence. That the query itself has no fence is the one thing that is asked
of it; two marks in a row are none.

Removing fences makes no new ones, and what has been stripped has no blanks left to be stripped. So
a text that has been cleaned is clean: the texts that cleaning leaves as they are are those without
fences and without blanks around them, and every text becomes one of these.

## Main definitions

* `Query.fenced` - a text in a fenced block

## Main results

* `Query.removeFences_fenced` - what the removal of fences leaves of a block
* `Query.parse_fenced` - a query in a block is the query
* `Query.withoutFences_eq_self_iff` - the texts that are clean
* `Query.withoutFences_clean` - what has been cleaned is clean
-/

namespace DocView.Query

/-- A text in a block that is fenced under a tag, with other characters before and after it. -/
def fenced (before tag text after : String) : String :=
  before ++ String.ofList fence ++ tag ++ "\n" ++ text ++ "\n" ++ String.ofList fence ++ after

variable {c : Char} {cs rest blanks tag : List Char}

/-! ### Characters -/

/-- Tags are made of the same characters as identifiers. -/
theorem isTagChar_of_isIdentifierChar (hc : IsIdentifierChar c) : isTagChar c = true :=
  Argument.isIdChar_iff.mpr hc

/-- The only blank between the control characters and the end of ASCII is the space. -/
theorem eq_space_of_isBlank (hc : Text.isBlank c = true) (hlow : 32 ≤ c.toNat)
    (hhigh : c.toNat < 127) : c = ' ' := by
  simp only [Text.isBlank, Bool.or_eq_true, Bool.and_eq_true, decide_eq_true_eq, beq_iff_eq] at hc
  have hspace : c.toNat = ' '.toNat := by
    show c.toNat = 32
    omega
  exact Char.toNat_inj.mp hspace

/-- A blank is neither a mark nor a part of a tag. -/
theorem ne_fenceMark_of_isBlank (hc : Text.isBlank c = true) :
    c ≠ fenceMark ∧ isTagChar c = false := by
  constructor
  · rintro rfl
    exact absurd hc (by decide)
  · rw [Bool.eq_false_iff]
    intro htag
    obtain ⟨hlow, hhigh⟩ := toNat_of_isTagChar htag
    obtain rfl := eq_space_of_isBlank hc hlow hhigh
    exact absurd htag (by decide)

/-! ### What is left of the parts of a block -/

/-- Marks that come first in a text come first in what stands before a character that is no mark. -/
theorem prefix_of_prefix_append_cons {n : Nat} (hc : c ≠ fenceMark)
    (h : List.replicate n fenceMark <+: cs ++ c :: rest) : List.replicate n fenceMark <+: cs := by
  induction n generalizing cs with
  | zero => exact List.nil_prefix
  | succ n ih =>
    rw [List.replicate_succ] at h ⊢
    cases cs with
    | nil => exact absurd (List.cons_prefix_cons.mp h).1.symm hc
    | cons d ds => exact List.cons_prefix_cons.mpr ((List.cons_prefix_cons.mp h).imp_right ih)

/-- A line without a fence is kept, however it ends. -/
theorem strips_line (h : ¬ fence <:+: cs) : Strips (cs ++ ['\n']) (cs ++ ['\n']) := by
  intro rest
  induction cs with
  | nil => exact removeFences_keep (.inl rfl) (not_prefix_of_ne (by decide))
  | cons c cs ih =>
    rw [List.infix_cons_iff, not_or] at h
    have hfirst : ¬ fence <+: c :: (cs ++ ['\n'] ++ rest) := by
      intro hprefix
      rw [List.append_assoc, List.singleton_append, ← List.cons_append] at hprefix
      exact h.1 (prefix_of_prefix_append_cons (by decide) hprefix)
    rw [List.cons_append, List.cons_append, removeFences_keep (.inl rfl) hfirst, ih h.2,
      List.cons_append]

/-- Of the line that opens a block, with its tag, the line break is left. -/
theorem strips_opening (htag : ∀ c ∈ tag, isTagChar c = true) :
    Strips (fence ++ tag ++ ['\n']) ['\n'] := by
  intro rest
  rw [List.append_assoc, List.append_assoc, removeFences_fence]
  induction tag with
  | nil => exact removeFences_keep (.inr (by decide)) (not_prefix_of_ne (by decide))
  | cons c tag ih =>
    rw [List.forall_mem_cons] at htag
    rw [List.cons_append, removeFences_tag htag.1, ih htag.2]

/-- Of the fence that closes a block, with blanks behind it, the blanks are left. -/
theorem removeFences_closing (h : ∀ c ∈ blanks, Text.isBlank c = true) :
    removeFences false (fence ++ blanks) = blanks := by
  rw [removeFences_fence]
  cases blanks with
  | nil => rw [removeFences]
  | cons c rest =>
    have hmarks : fenceMark ∉ rest :=
      fun hmem => (ne_fenceMark_of_isBlank (h _ (List.mem_cons_of_mem _ hmem))).1 rfl
    obtain ⟨hmark, htag⟩ := ne_fenceMark_of_isBlank (h c List.mem_cons_self)
    have hrest := strips_of_notMem hmarks []
    rw [List.append_nil, removeFences, List.append_nil] at hrest
    rw [removeFences_keep (.inr htag) (not_prefix_of_ne hmark), hrest]

/-- **What is left of a block** is the text between two line breaks, and the blanks around it. -/
theorem removeFences_fenced {before tag text after : String}
    (hbefore : ∀ c ∈ before.toList, Text.isBlank c = true)
    (htag : ∀ c ∈ tag.toList, isTagChar c = true) (htext : ¬ fence <:+: text.toList)
    (hafter : ∀ c ∈ after.toList, Text.isBlank c = true) :
    removeFences false (fenced before tag text after).toList
      = (before.toList ++ ['\n']) ++ (text.toList ++ (['\n'] ++ after.toList)) := by
  have hmarks : fenceMark ∉ before.toList :=
    fun hmem => (ne_fenceMark_of_isBlank (hbefore _ hmem)).1 rfl
  have hlines := (strips_of_notMem hmarks).append
    ((strips_opening htag).append (strips_line htext)) (fence ++ after.toList)
  rw [removeFences_closing hafter] at hlines
  simpa [fenced] using hlines

/-! ### Cleaned texts -/

theorem toList_withoutFences (s : String) :
    (withoutFences s).toList = Text.stripList (removeFences false s.toList) := by
  rw [withoutFences, String.toList_ofList]

/-- No fence is left, since stripping only shortens what the removal of fences has left. -/
theorem not_infix_withoutFences (s : String) : ¬ fence <:+: (withoutFences s).toList := by
  intro h
  rw [toList_withoutFences] at h
  exact not_infix_removeFences false s.toList (h.trans (Text.stripList_isInfix _))

/-- A text without fences is stripped and nothing more. -/
theorem withoutFences_eq_strip {s : String} (h : ¬ fence <:+: s.toList) :
    withoutFences s = Text.strip s := by
  rw [withoutFences, Text.strip, removeFences_of_not_infix h]

theorem strip_withoutFences (s : String) : Text.strip (withoutFences s) = withoutFences s := by
  rw [Text.strip, toList_withoutFences, Text.stripList_stripList, withoutFences]

/-- **The texts that are clean** are those without fences and without blanks around them. -/
theorem withoutFences_eq_self_iff {s : String} :
    withoutFences s = s ↔ ¬ fence <:+: s.toList ∧ Text.strip s = s := by
  constructor
  · intro h
    have hfence := not_infix_withoutFences s
    have hstrip := strip_withoutFences s
    rw [h] at hfence hstrip
    exact ⟨hfence, hstrip⟩
  · rintro ⟨hfence, hstrip⟩
    rw [withoutFences_eq_strip hfence, hstrip]

/-! ### The query in a block -/

/-- What a text is parsed as is a matter of the text without its fences. -/
theorem parse_congr {s t : String} (h : withoutFences s = withoutFences t) (limit : Value) :
    parse (.str s) limit = parse (.str t) limit := by
  show ofText s limit = ofText t limit
  rw [ofText, ofText, h]

/-- **A query in a fenced block** is the text of the query without the blanks around it, for every
tag of a language and whatever blanks stand around the block. So it is parsed as the text is: as
the same query, or with the same error. -/
theorem parse_fenced {before tag text after : String}
    (hbefore : ∀ c ∈ before.toList, Text.isBlank c = true)
    (htag : ∀ c ∈ tag.toList, IsIdentifierChar c) (htext : ¬ fence <:+: text.toList)
    (hafter : ∀ c ∈ after.toList, Text.isBlank c = true) :
    withoutFences (fenced before tag text after) = Text.strip text ∧
      ∀ limit, parse (.str (fenced before tag text after)) limit = parse (.str text) limit := by
  have hopening : ∀ c ∈ before.toList ++ ['\n'], Text.isBlank c = true :=
    List.forall_mem_append.mpr ⟨hbefore, List.forall_mem_singleton.mpr (by decide)⟩
  have hclosing : ∀ c ∈ ['\n'] ++ after.toList, Text.isBlank c = true :=
    List.forall_mem_append.mpr ⟨List.forall_mem_singleton.mpr (by decide), hafter⟩
  have hblock : withoutFences (fenced before tag text after) = Text.strip text := by
    rw [withoutFences, Text.strip, removeFences_fenced hbefore
      (fun c hc => isTagChar_of_isIdentifierChar (htag c hc)) htext hafter,
      Text.stripList_append_left hopening, Text.stripList_append_right hclosing]
  exact ⟨hblock, parse_congr (hblock.trans (withoutFences_eq_strip htext).symm)⟩

/-- A text whose first line could be a tag and which ends in two marks, in a block with blanks
around it. -/
theorem parse_fenced_marks :
    let marks := String.ofList (List.replicate 2 fenceMark)
    let text := "json\n" ++ marks
    (∀ c ∈ "\u3000\t".toList, Text.isBlank c = true) ∧ (∀ c ∈ "js-on_5".toList, IsIdentifierChar c) ∧
      ¬ fence <:+: text.toList ∧ (∀ c ∈ " ".toList, Text.isBlank c = true) ∧
      withoutFences (fenced "\u3000\t" "js-on_5" text " ") = text ∧
      parse (.str (fenced "\u3000\t" "js-on_5" text " ")) (.int 25) = parse (.str text) (.int 25) := by
  intro marks text
  have hbefore : ∀ c ∈ "\u3000\t".toList, Text.isBlank c = true := List.all_eq_true.mp (by decide)
  have hchars : "js-on_5".toList.all Argument.isIdChar = true := by decide
  have htag : ∀ c ∈ "js-on_5".toList, IsIdentifierChar c :=
    fun c hc => Argument.isIdChar_iff.mp (List.all_eq_true.mp hchars c hc)
  have htext : ¬ fence <:+: text.toList := by decide
  have hafter : ∀ c ∈ " ".toList, Text.isBlank c = true := List.all_eq_true.mp (by decide)
  have hstrip : Text.strip text = text := by decide
  obtain ⟨hblock, hparse⟩ := parse_fenced hbefore htag htext hafter
  exact ⟨hbefore, htag, htext, hafter, hblock.trans hstrip, hparse (.int 25)⟩

/-! ### Cleaning twice -/

/-- **What has been cleaned is clean.** Whatever the text, no fence is left in it, however many marks
it has in a row and whatever stands between them, and cleaning it once more changes nothing. So it
makes no difference to a query whether its text was cleaned before. Cleaning leaves alone what has
neither a fence nor blanks around it, and nothing else. -/
theorem withoutFences_clean (s : String) :
    ¬ fence <:+: (withoutFences s).toList ∧
      withoutFences (withoutFences s) = withoutFences s ∧
      (∀ limit, parse (.str (withoutFences s)) limit = parse (.str s) limit) ∧
      (withoutFences s = s ↔ ¬ fence <:+: s.toList ∧ Text.strip s = s) := by
  have htwice : withoutFences (withoutFences s) = withoutFences s :=
    withoutFences_eq_self_iff.mpr ⟨not_infix_withoutFences s, strip_withoutFences s⟩
  exact ⟨not_infix_withoutFences s, htwice, parse_congr htwice, withoutFences_eq_self_iff⟩

end DocView.Query
