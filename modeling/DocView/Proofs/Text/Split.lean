import DocView.Text.Split
import Mathlib.Data.List.DropRight
import Mathlib.Data.List.Infix
import Mathlib.Data.List.TakeWhile

/-!
# Parts of a text

A part of a text that is cut at a separator is a stretch of it, and so is the part without the
blanks around it. What a text does not contain, none of its items contains either. The first item
starts with the first characters of the text, as far as these are neither separators nor blanks.

Parts without the separator that are joined by it are cut into the same parts.

## Main results

* `Text.splitAt_intercalate`
* `Text.infix_of_mem_commaItems`
* `Text.exists_commaItem_startsWith`
-/

namespace DocView.Text

variable {separator a b c : Char} {cs part : List Char} {s item : String}

/-! ### Cutting -/

theorem splitAt_ne_nil (separator : Char) (cs : List Char) : splitAt separator cs ≠ [] := by
  cases cs with
  | nil => exact List.cons_ne_nil _ _
  | cons c rest =>
    rw [splitAt]
    split
    · exact List.cons_ne_nil _ _
    · split <;> exact List.cons_ne_nil _ _

/-- A character that is no separator goes to the front of the first part. -/
theorem splitAt_cons_of_ne (hc : c ≠ separator) (rest : List Char) :
    ∃ part parts, splitAt separator rest = part :: parts ∧
      splitAt separator (c :: rest) = (c :: part) :: parts := by
  obtain ⟨part, parts, hsplit⟩ := List.exists_cons_of_ne_nil (splitAt_ne_nil separator rest)
  refine ⟨part, parts, hsplit, ?_⟩
  rw [splitAt, if_neg hc, hsplit]

/-- The first part is what the characters start with, and every part is a stretch of them. -/
theorem splitAt_isInfix (separator : Char) (cs : List Char) :
    (∀ part ∈ (splitAt separator cs).head?, part <+: cs) ∧
      ∀ part ∈ splitAt separator cs, part <:+: cs := by
  induction cs with
  | nil => simp [splitAt]
  | cons c rest ih =>
    by_cases hc : c = separator
    · rw [splitAt, if_pos hc]
      constructor
      · simp
      · intro part hpart
        rcases List.mem_cons.mp hpart with rfl | hpart
        · exact List.nil_infix
        · exact List.infix_cons (ih.2 part hpart)
    · obtain ⟨first, parts, hrest, hsplit⟩ := splitAt_cons_of_ne hc rest
      rw [hrest] at ih
      have hfirst : c :: first <+: c :: rest :=
        List.cons_prefix_cons.mpr ⟨rfl, ih.1 first rfl⟩
      rw [hsplit]
      constructor
      · intro part hpart
        obtain rfl : c :: first = part := Option.some.inj hpart
        exact hfirst
      · intro part hpart
        rcases List.mem_cons.mp hpart with rfl | hpart
        · exact hfirst.isInfix
        · exact List.infix_cons (ih.2 part (List.mem_cons_of_mem _ hpart))

/-- A part without the separator is cut off in front of it. -/
theorem splitAt_append_cons (h : separator ∉ part) (rest : List Char) :
    splitAt separator (part ++ separator :: rest) = part :: splitAt separator rest := by
  induction part with
  | nil => rw [List.nil_append, splitAt, if_pos rfl]
  | cons c part ih =>
    obtain ⟨hc, hpart⟩ := List.ne_and_not_mem_of_not_mem_cons h
    rw [List.cons_append, splitAt, if_neg hc.symm, ih hpart]

theorem splitAt_eq_singleton (h : separator ∉ part) : splitAt separator part = [part] := by
  induction part with
  | nil => rw [splitAt]
  | cons c part ih =>
    obtain ⟨hc, hpart⟩ := List.ne_and_not_mem_of_not_mem_cons h
    rw [splitAt, if_neg hc.symm, ih hpart]

/-- **Cutting inverts joining**, for parts without the separator. -/
theorem splitAt_intercalate {pieces : List (List Char)} (hne : pieces ≠ [])
    (h : ∀ part ∈ pieces, separator ∉ part) :
    splitAt separator ([separator].intercalate pieces) = pieces := by
  induction pieces with
  | nil => contradiction
  | cons part more ih =>
    obtain ⟨hpart, hmore⟩ := List.forall_mem_cons.mp h
    cases more with
    | nil => rw [List.intercalate_singleton, splitAt_eq_singleton hpart]
    | cons next rest =>
      rw [List.intercalate_cons_cons, List.append_assoc, List.singleton_append,
        splitAt_append_cons hpart, ih (List.cons_ne_nil next rest) hmore]

/-! ### Stripping -/

/-- Stripping drops the blanks in front, and then those at the end. -/
theorem stripList_prefix_dropWhile (cs : List Char) : stripList cs <+: cs.dropWhile isBlank :=
  List.rdropWhile_prefix isBlank (cs.dropWhile isBlank)

theorem stripList_isInfix (cs : List Char) : stripList cs <:+: cs :=
  (stripList_prefix_dropWhile cs).isInfix.trans (List.dropWhile_suffix isBlank).isInfix

/-- Stripping drops nothing but blanks. -/
theorem filter_stripList (cs : List Char) :
    (stripList cs).filter (fun c => !isBlank c) = cs.filter fun c => !isBlank c := by
  have hdrop : ∀ cs : List Char,
      (cs.dropWhile isBlank).filter (fun c => !isBlank c) = cs.filter fun c => !isBlank c := by
    intro cs
    induction cs with
    | nil => rfl
    | cons c rest ih =>
      by_cases hc : isBlank c
      · rw [List.dropWhile_cons_of_pos hc, ih, List.filter_cons_of_neg (by simp [hc])]
      · rw [List.dropWhile_cons_of_neg hc]
  rw [stripList, stripBy, List.filter_reverse, hdrop, List.filter_reverse, hdrop,
    List.reverse_reverse]

/-- Stripping keeps the first characters if they are not blank. -/
theorem prefix_stripList (ha : isBlank a = false) (hb : isBlank b = false) (rest : List Char) :
    [a, b] <+: stripList (a :: b :: rest) := by
  have hfront : (a :: b :: rest).dropWhile isBlank = [a, b] ++ rest :=
    List.dropWhile_cons_of_neg (by simp [ha])
  have hkeep : [b, a].dropWhile isBlank = [b, a] := List.dropWhile_cons_of_neg (by simp [hb])
  have hreverse : [a, b].reverse = [b, a] := rfl
  rw [stripList, stripBy, hfront, List.reverse_append, hreverse, List.dropWhile_append, hkeep]
  split
  · exact List.prefix_rfl
  · rw [List.reverse_append]
    exact List.prefix_append [a, b] _

/-- A text that neither starts nor ends with a blank is stripped of nothing. -/
theorem stripList_eq_self (ha : isBlank a = false) (hb : isBlank b = false) (middle : List Char) :
    stripList (a :: (middle ++ [b])) = a :: (middle ++ [b]) := by
  have hfront : (a :: (middle ++ [b])).dropWhile isBlank = a :: (middle ++ [b]) :=
    List.dropWhile_cons_of_neg (by simp [ha])
  have hback : (b :: (middle.reverse ++ [a])).dropWhile isBlank = b :: (middle.reverse ++ [a]) :=
    List.dropWhile_cons_of_neg (by simp [hb])
  have hreverse : (a :: (middle ++ [b])).reverse = b :: (middle.reverse ++ [a]) := by simp
  rw [stripList, stripBy, hfront, hreverse, hback, ← hreverse, List.reverse_reverse]

/-- Where none of the characters is of a kind, none is stripped. -/
theorem stripBy_eq_self_of_forall {p : Char → Bool} (h : ∀ c ∈ cs, p c = false) :
    stripBy p cs = cs := by
  have hdrop : ∀ {ds : List Char}, (∀ c ∈ ds, p c = false) → ds.dropWhile p = ds := by
    intro ds hds
    rw [List.dropWhile_eq_self_iff]
    intro hlength
    simp [hds _ (List.getElem_mem hlength)]
  have hreverse : ∀ c ∈ cs.reverse, p c = false := fun c hc => h c (List.mem_reverse.mp hc)
  rw [stripBy, hdrop h, hdrop hreverse, List.reverse_reverse]

/-- Blanks in front of a text are stripped with those of the text. -/
theorem stripList_append_left {blanks : List Char} (h : ∀ c ∈ blanks, isBlank c = true)
    (cs : List Char) : stripList (blanks ++ cs) = stripList cs := by
  rw [stripList, stripBy, List.dropWhile_append_of_pos h, stripList, stripBy]

/-- Blanks behind a text are stripped with those of the text. -/
theorem stripList_append_right {blanks : List Char} (h : ∀ c ∈ blanks, isBlank c = true)
    (cs : List Char) : stripList (cs ++ blanks) = stripList cs := by
  have hreverse : ∀ c ∈ blanks.reverse, isBlank c = true := by
    simpa only [List.mem_reverse] using h
  rw [stripList, stripList, stripBy, stripBy, List.dropWhile_append]
  split
  next hnone =>
    -- Nothing but blanks in front, so the blanks behind are dropped with them.
    rw [List.isEmpty_iff.mp hnone, List.dropWhile_eq_nil_iff.2 h]
  next => rw [List.reverse_append, List.dropWhile_append_of_pos hreverse]

/-- Characters of a kind are not dropped again behind those of a wider kind. -/
theorem dropWhile_dropWhile_of_imp {p q : Char → Bool} (h : ∀ c, p c = true → q c = true)
    (cs : List Char) : (cs.dropWhile q).dropWhile p = cs.dropWhile q := by
  rw [List.dropWhile_eq_self_iff]
  intro hlength hp
  exact List.dropWhile_get_zero_not q cs hlength (h _ hp)

/-- What is left of a text that is stripped has nothing more to strip, not even of a narrower
kind. -/
theorem stripBy_stripBy {p q : Char → Bool} (h : ∀ c, p c = true → q c = true) (cs : List Char) :
    stripBy p (stripBy q cs) = stripBy q cs := by
  have hfront : (stripBy q cs).dropWhile p = stripBy q cs := by
    rw [List.dropWhile_eq_self_iff]
    intro hlength hp
    have hstart : stripBy q cs <+: cs.dropWhile q := List.rdropWhile_prefix q (cs.dropWhile q)
    -- The first character that is left was the first one behind those in front.
    rw [hstart.getElem hlength] at hp
    exact List.dropWhile_get_zero_not q cs _ (h _ hp)
  have hback : (stripBy q cs).reverse.dropWhile p = (stripBy q cs).reverse := by
    rw [stripBy, List.reverse_reverse, dropWhile_dropWhile_of_imp h]
  rw [stripBy, hfront, hback, List.reverse_reverse]

theorem stripList_stripList (cs : List Char) : stripList (stripList cs) = stripList cs :=
  stripBy_stripBy (fun _ h => h) cs

theorem isBlank_of_isPadding (hc : isPadding c = true) : isBlank c = true :=
  (Bool.and_eq_true_iff.mp hc).1

/-- A text that is stripped has no padding left. -/
theorem stripBy_isPadding_stripList (cs : List Char) :
    stripBy isPadding (stripList cs) = stripList cs :=
  stripBy_stripBy (fun _ => isBlank_of_isPadding) cs

/-! ### Items -/

/-- **An item is a stretch of the text.** -/
theorem infix_of_mem_commaItems (hitem : item ∈ commaItems s) : item.toList <:+: s.toList := by
  obtain ⟨part, hpart, rfl⟩ := List.mem_map.mp hitem
  rw [String.toList_ofList]
  exact (stripList_isInfix part).trans ((splitAt_isInfix ',' s.toList).2 part hpart)

/-- The first item starts as the text does. -/
theorem exists_commaItem_startsWith {rest : List Char} (hs : s.toList = a :: b :: rest)
    (ha : a ≠ ',') (hb : b ≠ ',') (hblank : isBlank a = false) (hblank' : isBlank b = false) :
    ∃ item ∈ commaItems s, [a, b] <+: item.toList := by
  obtain ⟨tail, parts, -, htail⟩ := splitAt_cons_of_ne hb rest
  obtain ⟨first, parts', hrest, hsplit⟩ := splitAt_cons_of_ne ha (b :: rest)
  obtain ⟨rfl, rfl⟩ := List.cons.inj (htail.symm.trans hrest)
  refine ⟨String.ofList (stripList (a :: b :: tail)), ?_, ?_⟩
  · rw [commaItems, hs, hsplit]
    exact List.mem_cons_self
  · rw [String.toList_ofList]
    exact prefix_stripList hblank hblank' tail

end DocView.Text
