import DocView.Proofs.Store.Backup

/-!
# The grammar of identifiers

An identifier that a caller gives ends up in paths of requests, in files and in messages, so it is
checked where it enters: one to a hundred and twenty-eight characters, all of them letters and
digits of ASCII, underscores and hyphens. The check refuses everything else but one thing. It
looks for the end of the text, and in front of a line break that comes last is an end, too: an
identifier with a line break behind it passes as well, if both together are not too long.

What the check accepts is answered as it is. So the line break stays, and an import stores it.

## Main definitions

* `IsIdentifier` - the grammar
* `IsBrokenIdentifier` - an identifier and a line break

## Main results

* `Argument.queryId_grammar` - what is accepted, and which identifiers an import lets in
-/

namespace DocView

/-! ### The grammar -/

/-- A letter or digit of ASCII, an underscore or a hyphen. -/
def IsIdentifierChar (c : Char) : Prop :=
  ('A' ≤ c ∧ c ≤ 'Z') ∨ ('a' ≤ c ∧ c ≤ 'z') ∨ ('0' ≤ c ∧ c ≤ '9') ∨ c = '_' ∨ c = '-'

/-- A text that has the form of an identifier. -/
structure IsIdentifier (s : String) : Prop where
  /-- It has a character. -/
  pos : 1 ≤ s.length
  /-- It has at most so many. -/
  length_le : s.length ≤ 128
  /-- They are letters, digits, underscores and hyphens. -/
  chars : ∀ c ∈ s.toList, IsIdentifierChar c

/-- An identifier with a line break behind it that is not too long. -/
def IsBrokenIdentifier (s : String) : Prop :=
  ∃ id, IsIdentifier id ∧ id.length < 128 ∧ s = id ++ "\n"

theorem not_isIdentifierChar_lineBreak : ¬ IsIdentifierChar '\n' := by
  unfold IsIdentifierChar
  decide

/-- The grammar has no line breaks. -/
theorem IsBrokenIdentifier.not_isIdentifier {s : String} (h : IsBrokenIdentifier s) :
    ¬ IsIdentifier s := by
  obtain ⟨id, -, -, hs⟩ := h
  intro hid
  have hbreak : '\n' ∈ s.toList := by
    rw [hs, String.toList_append]
    exact List.mem_append_right _ List.mem_cons_self
  exact not_isIdentifierChar_lineBreak (hid.chars '\n' hbreak)

namespace Argument

variable {c : Char} {cs : List Char}

theorem isIdChar_iff : isIdChar c = true ↔ IsIdentifierChar c := by
  have hupper : c.isUpper = true ↔ 'A' ≤ c ∧ c ≤ 'Z' := decide_eq_true_iff
  have hlower : c.isLower = true ↔ 'a' ≤ c ∧ c ≤ 'z' :=
    Bool.and_eq_true_iff.trans (and_congr decide_eq_true_iff decide_eq_true_iff)
  have hdigit : c.isDigit = true ↔ '0' ≤ c ∧ c ≤ '9' :=
    Bool.and_eq_true_iff.trans (and_congr decide_eq_true_iff decide_eq_true_iff)
  have halphanum : c.isAlphanum = true ↔ (c.isUpper = true ∨ c.isLower = true) ∨ c.isDigit = true :=
    Bool.or_eq_true_iff.trans (or_congr_left Bool.or_eq_true_iff)
  simp only [isIdChar, IsIdentifierChar, Bool.or_eq_true, beq_iff_eq, halphanum, hupper, hlower,
    hdigit, or_assoc]

/-- The characters that pass are those of an identifier, with or without a line break behind. -/
theorem isId_iff : isId cs = true ↔
    ∃ core, core ≠ [] ∧ (∀ c ∈ core, isIdChar c = true) ∧ (cs = core ∨ cs = core ++ ['\n']) := by
  constructor
  · intro h
    simp only [isId, Bool.and_eq_true, Bool.not_eq_true', List.isEmpty_eq_false_iff,
      Bool.or_eq_true, List.isEmpty_iff, beq_iff_eq] at h
    obtain ⟨hcore, hrest⟩ := h
    refine ⟨cs.takeWhile isIdChar, hcore, fun c hc => List.mem_takeWhile_imp hc, ?_⟩
    have hsplit := List.takeWhile_append_dropWhile (p := isIdChar) (l := cs)
    rcases hrest with hnone | hbreak
    · rw [hnone, List.append_nil] at hsplit
      exact .inl hsplit.symm
    · rw [hbreak] at hsplit
      exact .inr hsplit.symm
  · rintro ⟨core, hne, hchars, rfl | rfl⟩
    · exact Store.isId_of_forall hne hchars
    · have hcore : (core ++ ['\n']).takeWhile isIdChar = core := by
        rw [List.takeWhile_append_of_pos hchars]
        exact List.append_nil core
      have hrest : (core ++ ['\n']).dropWhile isIdChar = ['\n'] := by
        rw [List.dropWhile_append_of_pos hchars]
        rfl
      simp [isId, hcore, hrest, hne]

theorem isIdentifier_ofList (hne : cs ≠ []) (hle : cs.length ≤ 128)
    (hchars : ∀ c ∈ cs, isIdChar c = true) : IsIdentifier (String.ofList cs) where
  pos := by
    rw [String.length_ofList]
    exact List.length_pos_iff.mpr hne
  length_le := by rwa [String.length_ofList]
  chars c hc := isIdChar_iff.mp (hchars c (by rwa [String.toList_ofList] at hc))

/-- A short text passes if it is in the grammar, or would be without the line break behind it. -/
theorem isId_toList_iff {s : String} (hshort : s.length ≤ 128) :
    isId s.toList = true ↔ IsIdentifier s ∨ IsBrokenIdentifier s := by
  constructor
  · intro h
    obtain ⟨core, hne, hchars, hs | hs⟩ := isId_iff.mp h
    · have hs : s = String.ofList core := by rw [← hs, String.ofList_toList]
      rw [hs, String.length_ofList] at hshort
      exact .inl (hs ▸ isIdentifier_ofList hne hshort hchars)
    · have hs : s = String.ofList core ++ "\n" := by
        rw [← String.toList_inj, hs, String.toList_append, String.toList_ofList]
        rfl
      rw [hs, String.length_append, String.length_ofList] at hshort
      have hlt : core.length < 128 := hshort
      exact .inr ⟨_, isIdentifier_ofList hne hlt.le hchars, by rwa [String.length_ofList], hs⟩
  · have hpasses {id : String} (h : IsIdentifier id) :
        id.toList ≠ [] ∧ ∀ c ∈ id.toList, isIdChar c = true :=
      ⟨List.length_pos_iff.mp h.pos, fun c hc => isIdChar_iff.mpr (h.chars c hc)⟩
    rintro (h | ⟨id, h, -, rfl⟩)
    · exact isId_iff.mpr ⟨_, (hpasses h).1, (hpasses h).2, .inl rfl⟩
    · exact isId_iff.mpr ⟨_, (hpasses h).1, (hpasses h).2, .inr String.toList_append⟩

theorem length_le_of_isBrokenIdentifier {s : String} (h : IsBrokenIdentifier s) :
    s.length ≤ 128 := by
  obtain ⟨id, -, hlt, rfl⟩ := h
  rw [String.length_append]
  exact hlt

/-- **What the check accepts** is answered as it is. -/
theorem queryId_eq_ok_iff {v : Value} {id : String} :
    queryId v = .ok id ↔ v = .str id ∧ (IsIdentifier id ∨ IsBrokenIdentifier id) := by
  constructor
  · intro h
    unfold queryId at h
    split at h
    next s =>
      split_ifs at h with hempty hlong hform
      obtain rfl := Except.ok.inj h
      exact ⟨rfl, (isId_toList_iff (Nat.not_lt.mp hlong)).mp hform⟩
    next => cases h
  · rintro ⟨rfl, hid⟩
    have hshort : id.length ≤ 128 := hid.elim (·.length_le) length_le_of_isBrokenIdentifier
    have hform := (isId_toList_iff hshort).mpr hid
    have hempty : id ≠ "" := by
      rintro rfl
      cases hform
    have hlong : ¬ maxIdLength < id.length := Nat.not_lt.mpr hshort
    rw [queryId, if_neg hempty, if_neg hlong, if_pos hform]

theorem category_of_queryId {v : Value} {e : Error} (h : queryId v = .error e) :
    e.category = .validation := by
  unfold queryId at h
  split at h
  next => split_ifs at h <;> cases h <;> rfl
  next => cases h; rfl

end Argument

namespace Store

/-! ### What an import lets in -/

/-- An import that succeeds was given records that are accepted, restores each of them, and keeps
the last one of each identifier. -/
theorem importAll_eq_ok {s t : State} {data : Value} {answer : Answer}
    (h : (Call.importAll data).run s = (.ok answer, t)) :
    ∃ given qs, Argument.records data = .ok given ∧
      List.Forall₂ (Restored s.supply t.supply) given qs ∧ Collected qs t.records ∧
      answer = .count t.records.length := by
  have htakes := takes_importAll s data
  rw [h] at htakes
  cases htakes with
  | step _ step =>
    cases step with
    | importAll checked restored collected => exact ⟨_, _, checked, restored, collected, rfl⟩

end Store

/-- **The grammar of identifiers.** A value is accepted if it is a text of one to a hundred and
twenty-eight letters and digits of ASCII, underscores and hyphens. Otherwise it is refused as
invalid, unless it is such a text with a line break behind it and no more than a hundred and
twenty-eight characters in all. What is accepted is answered as it is. An import lets in no other
identifiers; those that it makes up come from the generator. -/
theorem Argument.queryId_grammar (v data : Value) :
    ((∃ id, queryId v = .ok id) ↔ ∃ id, v = .str id ∧ (IsIdentifier id ∨ IsBrokenIdentifier id)) ∧
    (∀ id, queryId v = .ok id → v = .str id) ∧
    (∀ e, queryId v = .error e → e.category = .validation) ∧
    ∀ s t answer, (Store.Call.importAll data).run s = (.ok answer, t) → ∀ q ∈ t.records,
      IsIdentifier q.id ∨ IsBrokenIdentifier q.id ∨ s.supply.Issues t.supply q.id := by
  refine ⟨exists_congr fun id => queryId_eq_ok_iff, fun id h => (queryId_eq_ok_iff.mp h).1,
    fun e => category_of_queryId, ?_⟩
  intro s t answer h q hq
  obtain ⟨given, qs, hgiven, hrestored, hcollected, -⟩ := Store.importAll_eq_ok h
  obtain ⟨front, back, rfl, -⟩ := hcollected.last q hq
  obtain ⟨members, hmembers, hq⟩ :=
    Store.exists_of_forall₂ hrestored (List.mem_append_right front List.mem_cons_self)
  rcases hq.accepted_or_issued (Store.acceptsId_of_records hgiven members hmembers)
    with haccepted | hissued
  · exact (queryId_eq_ok_iff.mp haccepted).2.imp_right .inl
  · exact .inr (.inr hissued)

/-- A number is imported, and its text is an identifier. The empty text is refused. -/
theorem Argument.queryId_grammar_numbered :
    let imported := (Store.Call.importAll (.array [.record [("id", .int 7)]])).run Store.blank
    Store.ids imported.2.records = ["7"] ∧ (∃ id, queryId (.str "7") = .ok id) ∧
      (IsIdentifier "7" ∨ IsBrokenIdentifier "7" ∨
        Store.blank.supply.Issues imported.2.supply "7") ∧
      queryId (.str "") = .error .idEmpty ∧ Error.idEmpty.category = .validation := by
  intro imported
  have haccepted : ∃ id, queryId (.str "7") = .ok id := ⟨_, rfl⟩
  obtain ⟨q, hq⟩ : ∃ q, imported.2.records = [q] := ⟨_, rfl⟩
  have hid : q.id = "7" := congrArg SavedQuery.id (List.cons.inj hq).1.symm
  have hrun : (Store.Call.importAll (.array [.record [("id", .int 7)]])).run Store.blank
    = (.ok (.count 1), imported.2) := rfl
  have hin := (queryId_grammar .null _).2.2.2 _ _ _ hrun q (hq ▸ List.mem_singleton_self q)
  exact ⟨rfl, haccepted, hid ▸ hin, rfl, (queryId_grammar (.str "") .null).2.2.1 _ rfl⟩

/-- A letter and a line break are accepted, although the grammar has no line breaks. -/
theorem Argument.not_queryId_grammar_lineBreak :
    IsBrokenIdentifier "a\n" ∧ ¬ IsIdentifier "a\n" ∧ queryId (.str "a\n") = .ok "a\n" := by
  have hletter : IsIdentifier "a" := by
    refine ⟨by decide, by decide, fun c hc => ?_⟩
    rw [List.mem_singleton.mp hc]
    exact .inr (.inl (by decide))
  have hbroken : IsBrokenIdentifier "a\n" := ⟨"a", hletter, by decide, rfl⟩
  exact ⟨hbroken, hbroken.not_isIdentifier, rfl⟩

end DocView
