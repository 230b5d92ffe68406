import DocView.Proofs.Pattern.Reader

/-!
# Patterns whose flags ignore case

A pattern is read with case ignored, and only a group of flags can change that: one that asks for
ASCII, or one that turns off the flag for case in a part. Whether there is such a group is seen in
the tokens. If there is none, the flags ignore case wherever the reader is, so the whole pattern
does.

The reader calls itself for the parts of a pattern. What it keeps up is about the tokens that
remain and the flags for the whole pattern, and it is shown for all parts at once, by the fuel.

## Main definitions

* `Pattern.KeepsCase` - tokens without a group of flags that would have case matter

## Main results

* `Pattern.folds_of_parse` - what is read from such tokens ignores case
-/

namespace DocView.Pattern

variable {α : Type} {flags : Flags} {s s' : State} {ts us : List Token}

/-! ### Groups of flags -/

/-- Tokens in which no group of flags asks for ASCII, and none turns off the flag for case. -/
structure KeepsCase (ts : List Token) : Prop where
  /-- No group asks for ASCII. -/
  notAscii : ∀ letters : List Char, (∀ c ∈ letters, isFlag c = true) →
    ¬ ('(' :: '?' :: letters ++ ['a']).map Token.plain <:+: ts
  /-- No group turns off the flag for case. -/
  notExact : ∀ on off : List Char, (∀ c ∈ on ++ off, isFlag c = true) →
    ¬ ('(' :: '?' :: on ++ '-' :: off ++ ['i']).map Token.plain <:+: ts

theorem KeepsCase.suffix (h : KeepsCase ts) (hs : us <:+ ts) : KeepsCase us where
  notAscii letters hletters hin := h.notAscii letters hletters (hin.trans hs.isInfix)
  notExact on off hletters hin := h.notExact on off hletters (hin.trans hs.isInfix)

theorem Flags.IgnoreCase.change (h : flags.IgnoreCase) {on off : List Char} (hon : 'a' ∉ on)
    (hoff : 'i' ∉ off) : (flags.change on off).IgnoreCase where
  ignoreCase := by simp [Flags.change, h.ignoreCase, hoff]
  ascii := by simp [Flags.change, hon, h.ascii]

theorem keepsCase_of_notMem (h : .plain '(' ∉ ts) : KeepsCase ts where
  notAscii _ _ hin := h (hin.subset List.mem_cons_self)
  notExact _ _ _ hin := h (hin.subset List.mem_cons_self)

/-- Flags and the character that ends them have been taken. -/
theorem flagLetters_eq_ok {isStop : Char → Bool} {fuel : Nat} {acc letters : List Char}
    {stop : Char} (h : (flagLetters isStop fuel acc).run s = .ok ((letters, stop), s')) :
    ∃ more, letters = acc ++ more ∧ (∀ c ∈ more, isFlag c = true) ∧
      s.rest = (more ++ [stop]).map Token.plain ++ s'.rest ∧ s'.flags = s.flags := by
  induction fuel generalizing acc s with
  | zero => cases h
  | succ fuel ih =>
    obtain ⟨t?, u, hnext, h⟩ := run_bind_eq_ok.mp h
    rcases next_eq_ok hnext with ⟨rfl, -, -⟩ | ⟨t, rfl, hrest, hu⟩
    · cases h
    have hflags : u.flags = s.flags := by rw [hu]
    split at h
    next c hc =>
      obtain rfl := Option.some.inj hc
      split at h
      next =>
        cases h
        exact ⟨[], (List.append_nil _).symm, List.forall_mem_nil _, hrest, hflags⟩
      next =>
        split at h
        next hflag =>
          obtain ⟨more, rfl, hmore, hrest', hflags'⟩ := ih h
          refine ⟨c :: more, by simp, List.forall_mem_cons.mpr ⟨hflag, hmore⟩, ?_,
            hflags'.trans hflags⟩
          rw [hrest, hrest']
          rfl
        next => cases h
    next => cases h

/-- What follows the opening of a group of flags is letters and the character that ends them. -/
theorem notMem_of_keepsCase {on : List Char} {stop : Char}
    (hkeeps : KeepsCase (.plain '(' :: .plain '?' :: us)) (hon : ∀ c ∈ on, isFlag c = true)
    (hus : us = (on ++ [stop]).map Token.plain ++ ts) : 'a' ∉ on := by
  intro hmem
  obtain ⟨before, after, rfl⟩ := List.append_of_mem hmem
  refine hkeeps.notAscii before (fun c hc => hon c (List.mem_append_left _ hc))
    ⟨[], (after ++ [stop]).map Token.plain ++ ts, ?_⟩
  rw [hus]
  simp

theorem notMem_off_of_keepsCase {on off : List Char} {stop : Char}
    (hkeeps : KeepsCase (.plain '(' :: .plain '?' :: us))
    (hon : ∀ c ∈ on, isFlag c = true) (hoff : ∀ c ∈ off, isFlag c = true)
    (hus : us = (on ++ '-' :: off ++ [stop]).map Token.plain ++ ts) : 'i' ∉ off := by
  intro hmem
  obtain ⟨before, after, rfl⟩ := List.append_of_mem hmem
  refine hkeeps.notExact on before (fun c hc => ?_)
    ⟨[], (after ++ [stop]).map Token.plain ++ ts, ?_⟩
  · rcases List.mem_append.mp hc with hc | hc
    · exact hon c hc
    · exact hoff c (List.mem_append_left _ hc)
  · rw [hus]
    simp

theorem suffix_of_cons_eq {first : Token} {cs : List Char} {stop : Char}
    (h : first :: us = (cs ++ [stop]).map Token.plain ++ ts) : ts <:+ us := by
  cases cs with
  | nil => exact ⟨[], (List.cons.inj h).2.symm⟩
  | cons c cs => exact ⟨_, (List.cons.inj h).2.symm⟩

/-- What a group of flags does is to set flags that ignore case. -/
theorem triple_flagGroup {first : Char} (hfirst : isFlag first = true ∨ first = '-')
    (hkeeps : KeepsCase (.plain '(' :: .plain '?' :: .plain first :: us))
    (hflags : flags.IgnoreCase) :
    Triple (fun s => s.rest = us ∧ s.flags.IgnoreCase) (flagGroup flags first) fun effect s =>
      s.rest <:+ us ∧ s.flags.IgnoreCase ∧ ∀ f, effect = .scoped f → f.IgnoreCase := by
  refine triple_get.andThen fun s₀ _ => ?_
  extract_lets fuel turnOn
  -- The letters that turn flags on have been taken, and what stands behind them.
  have hturnOn : ∀ x : List Char × Char, Triple
      (fun s => (∀ c ∈ x.1, isFlag c = true) ∧ s.flags.IgnoreCase ∧
        .plain first :: us = (x.1 ++ [x.2]).map Token.plain ++ s.rest) (turnOn x) fun effect s =>
      s.rest <:+ us ∧ s.flags.IgnoreCase ∧ ∀ f, effect = .scoped f → f.IgnoreCase := by
    rintro ⟨on, stop⟩
    refine triple_unless fun _ => triple_ite (fun _ => ?_) fun _ => triple_unless fun _ => ?_
    · refine (triple_modify (Q := fun _ s => s.rest <:+ us ∧ s.flags.IgnoreCase) ?_).bind
        fun _ => triple_pure fun s hs => ⟨hs.1, hs.2, by simp⟩
      rintro s ⟨hon, hs, hus⟩
      exact ⟨suffix_of_cons_eq hus, hs.change (notMem_of_keepsCase hkeeps hon hus) List.not_mem_nil⟩
    · extract_lets turnOff
      -- So have the letters that turn flags off.
      have hturnOff : ∀ off, Triple
          (fun s => s.rest <:+ us ∧ s.flags.IgnoreCase ∧ 'a' ∉ on ∧ 'i' ∉ off) (turnOff off)
          fun effect s =>
            s.rest <:+ us ∧ s.flags.IgnoreCase ∧ ∀ f, effect = .scoped f → f.IgnoreCase := by
        intro off
        refine triple_unless fun _ => triple_unless fun _ => triple_unless fun _ => ?_
        refine triple_pure fun s ⟨hrest, hs, hon, hoff⟩ => ⟨hrest, hs, fun f hf => ?_⟩
        cases hf
        exact hflags.change hon hoff
      refine triple_ite (fun hminus => ?_) fun _ => ?_
      · subst hminus
        refine Triple.bind (Q := fun x s =>
          s.rest <:+ us ∧ s.flags.IgnoreCase ∧ 'a' ∉ on ∧ 'i' ∉ x.1) ?_ fun x => hturnOff x.1
        rintro s ⟨off, last⟩ s' ⟨hon, hs, hus⟩ hrun
        obtain ⟨_, rfl, hoff, hrest, hflags'⟩ := flagLetters_eq_ok hrun
        have hlater : s'.rest <:+ s.rest := ⟨_, hrest.symm⟩
        have hall : .plain first :: us =
            (on ++ '-' :: off ++ [last]).map Token.plain ++ s'.rest := by
          rw [hus, hrest]
          simp
        exact ⟨hlater.trans (suffix_of_cons_eq hus), hflags' ▸ hs,
          notMem_of_keepsCase hkeeps hon hus, notMem_off_of_keepsCase hkeeps hon hoff hall⟩
      · refine (hturnOff []).of_imp fun s ⟨hon, hs, hus⟩ => ?_
        exact ⟨suffix_of_cons_eq hus, hs, notMem_of_keepsCase hkeeps hon hus, List.not_mem_nil⟩
  refine triple_ite (fun hminus => ?_) fun hletter => ?_
  · refine (hturnOn ([], '-')).of_imp fun s ⟨hrest, hs⟩ => ⟨List.forall_mem_nil _, hs, ?_⟩
    rw [hrest, hminus]
    rfl
  · refine Triple.bind (Q := fun x s => (∀ c ∈ x.1, isFlag c = true) ∧ s.flags.IgnoreCase ∧
      .plain first :: us = (x.1 ++ [x.2]).map Token.plain ++ s.rest) ?_ hturnOn
    rintro s ⟨letters, stop⟩ s' ⟨hrest, hs⟩ hrun
    obtain ⟨more, rfl, hmore, hrest', hflags'⟩ := flagLetters_eq_ok hrun
    refine ⟨?_, hflags' ▸ hs, ?_⟩
    · exact List.forall_mem_cons.mpr ⟨hfirst.resolve_right hletter, hmore⟩
    · rw [← hrest, hrest']
      rfl

/-! ### Groups -/

/-- What remains does not turn off that case is ignored, and the flags for the whole pattern ignore
case. -/
def Good (s : State) : Prop := KeepsCase s.rest ∧ s.flags.IgnoreCase

theorem Reads.good {Q : α → Prop} {m : Reader α} (h : ∀ start, Reads start Q m) :
    Triple Good m fun a s => Q a ∧ Good s := by
  intro s a s' hs hrun
  obtain ⟨ha, hrest, hflags⟩ := h s.rest s.flags s a s' ⟨List.suffix_refl _, rfl⟩ hrun
  exact ⟨ha, hs.1.suffix hrest, hflags ▸ hs.2⟩

/-- A group that ignores case, or whose inside is read under flags that do. -/
def Group.IgnoresCase : Group → Prop
  | .node part => part.folds = true
  | .inside flags _ => flags.IgnoreCase
  | _ => True

/-- What was opened, if it is a group, ignores case. -/
def Opening.IgnoresCase : Opening → Prop
  | .group opened => opened.IgnoresCase
  | _ => True

/-- A token has been taken behind the start of a group. -/
theorem triple_next (hkeeps : KeepsCase (.plain '(' :: .plain '?' :: us)) :
    Triple (fun s => s.rest = us ∧ s.flags.IgnoreCase) next fun t? s =>
      Good s ∧ ∀ t, t? = some t → KeepsCase (.plain '(' :: .plain '?' :: t :: s.rest) := by
  rintro s t? s' ⟨hrest, hs⟩ hrun
  have hgood : Good s := ⟨hrest ▸ hkeeps.suffix ⟨[.plain '(', .plain '?'], rfl⟩, hs⟩
  have hgood' := (Reads.good (fun _ => reads_next) s t? s' hgood hrun).2
  refine ⟨hgood', ?_⟩
  rintro t rfl
  rcases next_eq_ok hrun with ⟨hnone, -⟩ | ⟨t', ht, hrest', -⟩
  · cases hnone
  · obtain rfl := Option.some.inj ht
    rw [hrest] at hrest'
    rwa [← hrest']

theorem reads_capture (name : List Char) :
    Reads ts Opening.IgnoresCase
      (if Text.isIdentifier name then pure (.group (.capture (some (String.ofList name))))
        else malformed) :=
  reads_ite (fun _ => reads_pure trivial) fun _ => reads_malformed

/-- A group is read under flags that ignore case. -/
theorem triple_opening (hkeeps : KeepsCase (.plain '(' :: .plain '?' :: us))
    (hflags : flags.IgnoreCase) :
    Triple (fun s => s.rest = us ∧ s.flags.IgnoreCase) (opening flags) fun o s =>
      o.IgnoresCase ∧ Good s := by
  refine triple_get.andThen fun s₀ _ => ?_
  refine (triple_next hkeeps).bind fun t? => ?_
  have hreads {m : Reader Opening} (h : ∀ start, Reads start Opening.IgnoresCase m) :
      Triple (fun s => Good s ∧
        ∀ t, t? = some t → KeepsCase (.plain '(' :: .plain '?' :: t :: s.rest)) m
          fun o s => o.IgnoresCase ∧ Good s := (Reads.good h).of_imp fun s hs => hs.1
  split
  next =>
    refine hreads fun _ => (reads_accept '<').bind fun _ _ => reads_ite (fun _ => ?_) fun _ => ?_
    · exact (reads_label '>').bind fun name _ => reads_capture name
    · refine (reads_accept '=').bind fun _ _ => reads_ite (fun _ => ?_) fun _ => reads_malformed
      refine (reads_label ')').bind fun name _ => reads_unless fun _ => ?_
      split
      next index _ => exact (reads_reference hflags index).bind fun _ h => reads_pure h
      next => exact reads_malformed
  next => exact hreads fun _ => reads_pure hflags
  next => exact hreads fun _ => (reads_skipComment _).bind fun _ _ => reads_pure trivial
  next => exact hreads fun _ => reads_pure trivial
  next => exact hreads fun _ => reads_pure trivial
  next =>
    refine hreads fun _ => (reads_accept '=').bind fun _ _ => ?_
    refine reads_ite (fun _ => reads_pure trivial) fun _ => (reads_accept '!').bind fun _ _ => ?_
    exact reads_ite (fun _ => reads_pure trivial) fun _ => reads_malformed
  next =>
    refine hreads fun _ => (reads_label ')').bind fun _ _ => ?_
    refine (reads_conditionIndex _).bind fun index _ => ?_
    exact (reads_checkCondition index).bind fun _ _ => reads_pure trivial
  next => exact hreads fun _ => reads_pure hflags
  next c _ _ _ _ _ _ _ _ =>
    refine triple_ite (fun hc => ?_) fun _ => triple_malformed
    have hfirst : isFlag c = true ∨ c = '-' := by simpa using hc
    refine Triple.bind (Q := fun effect s =>
      Good s ∧ ∀ f, effect = .scoped f → f.IgnoreCase) ?_ fun effect => ?_
    · rintro s effect s' ⟨hgood, hnext⟩ hrun
      obtain ⟨hrest, hs, heffect⟩ :=
        triple_flagGroup hfirst (hnext _ rfl) hflags s effect s' ⟨rfl, hgood.2⟩ hrun
      exact ⟨⟨hgood.1.suffix hrest, hs⟩, heffect⟩
    · rcases effect with _ | f
      · exact triple_pure fun s hs => ⟨trivial, hs.1⟩
      · exact triple_pure fun s hs => ⟨hs.2 f rfl, hs.1⟩
  next => exact triple_malformed

/-! ### Whole patterns -/

/-- What was read last ignores case. -/
def Last.IgnoresCase : Last → Prop
  | .other part => part.folds = true
  | _ => True

theorem folds_join {before : Node} {last : Last} (hbefore : before.folds = true)
    (hlast : last.IgnoresCase) : (last.join before).folds = true := by
  cases last with
  | other part => exact Bool.and_eq_true_iff.mpr ⟨hbefore, hlast⟩
  | _ => exact hbefore

theorem reads_eagerness : Reads ts (fun _ => True) eagerness := by
  refine (reads_accept '?').bind fun _ _ => ?_
  refine reads_ite (fun _ => reads_pure trivial) fun _ => (reads_accept '+').bind fun _ _ => ?_
  exact reads_ite (fun _ => reads_pure trivial) fun _ => reads_pure trivial

theorem reads_repeated {last : Last} (hlast : last.IgnoresCase) (least : Nat)
    (greatest : Option Nat) :
    Reads ts (fun part => part.folds = true) (repeated least greatest last) := by
  cases last with
  | other part => exact reads_eagerness.bind fun _ _ => reads_pure hlast
  | _ => exact reads_malformed

theorem triple_peek : Triple Good peek fun t? s => t? = s.rest.head? ∧ Good s := by
  intro s t? s' hs hrun
  cases hrun
  exact ⟨rfl, hs⟩

/-- A token that was there has been taken. -/
theorem triple_next_of_peek {t : Token} :
    Triple (fun s => some t = s.rest.head? ∧ Good s) next
      fun _ s => Good s ∧ KeepsCase (t :: s.rest) := by
  rintro s t? s' ⟨hhead, hs⟩ hrun
  refine ⟨(Reads.good (fun _ => reads_next) s t? s' hs hrun).2, ?_⟩
  rcases next_eq_ok hrun with ⟨-, hnone, -⟩ | ⟨t', -, hrest, -⟩
  · rw [hnone] at hhead
    cases hhead
  · rw [hrest, List.head?_cons] at hhead
    obtain rfl := Option.some.inj hhead
    rw [← hrest]
    exact hs.1

/-- A question mark has been taken behind an opening parenthesis, or there was none. -/
theorem triple_accept_mark :
    Triple (fun s => Good s ∧ KeepsCase (.plain '(' :: s.rest)) (accept '?') fun taken s =>
      Good s ∧ (taken = true → KeepsCase (.plain '(' :: .plain '?' :: s.rest)) := by
  rintro s taken s' ⟨hs, hkeeps⟩ hrun
  refine ⟨(Reads.good (fun _ => reads_accept '?') s taken s' hs hrun).2, fun htaken => ?_⟩
  rcases accept_eq_ok hrun with ⟨hfalse, -⟩ | ⟨-, hrest, -⟩
  · cases htaken.symm.trans hfalse
  · rwa [← hrest]

/-- A part that ignores case is read. -/
abbrev ReadsFolding (m : Reader Node) : Prop := Triple Good m fun p s => p.folds = true ∧ Good s

theorem readsFolding_modify {f : State → State} {k : Unit → Reader Node}
    (hrest : ∀ s, (f s).rest = s.rest) (hflags : ∀ s, (f s).flags = s.flags)
    (hk : ∀ u, ReadsFolding (k u)) : ReadsFolding (modify f >>= k) :=
  (Reads.good fun _ => reads_modify hrest hflags).andThen fun u _ => hk u

/-- The parts of the reader that call each other, with so much fuel, read what ignores case. -/
structure AllFold (fuel : Nat) : Prop where
  alternatives : ∀ {flags} (_ : flags.IgnoreCase) top, ReadsFolding (alternatives fuel flags top)
  moreAlternatives : ∀ {flags} (_ : flags.IgnoreCase) top first, first.folds = true →
    ReadsFolding (moreAlternatives fuel flags top first)
  alternative : ∀ {flags} (_ : flags.IgnoreCase) top before last, before.folds = true →
    last.IgnoresCase → ReadsFolding (alternative fuel flags top before last)
  grouped : ∀ {flags} (_ : flags.IgnoreCase) group, group.IgnoresCase →
    ReadsFolding (grouped fuel flags group)

section Step

variable {fuel : Nat} (ih : AllFold fuel) (hflags : flags.IgnoreCase)

include ih hflags

theorem alternatives_step (top : Bool) : ReadsFolding (alternatives (fuel + 1) flags top) := by
  unfold alternatives
  exact (ih.alternative hflags top .empty .nothing rfl trivial).andThen fun first hfirst =>
    ih.moreAlternatives hflags top first hfirst

theorem moreAlternatives_step (top : Bool) (first : Node) (hfirst : first.folds = true) :
    ReadsFolding (moreAlternatives (fuel + 1) flags top first) := by
  unfold moreAlternatives
  refine (Reads.good fun _ => reads_accept '|').andThen fun _ _ => ?_
  refine triple_ite (fun _ => ?_) fun _ => triple_pure fun s hs => ⟨hfirst, hs⟩
  refine triple_get.andThen fun s₀ hs₀ => ?_
  have hinner : (if top then s₀.flags else flags).IgnoreCase := by
    cases top with
    | true => exact hs₀.2
    | false => exact hflags
  refine (ih.alternative hinner false .empty .nothing rfl trivial).andThen fun second hsecond => ?_
  refine (ih.moreAlternatives hinner top second hsecond).andThen fun more hmore => ?_
  exact triple_pure fun s hs => ⟨Bool.and_eq_true_iff.mpr ⟨hfirst, hmore⟩, hs⟩

theorem alternative_step (top : Bool) (before : Node) (last : Last) (hbefore : before.folds = true)
    (hlast : last.IgnoresCase) : ReadsFolding (alternative (fuel + 1) flags top before last) := by
  unfold alternative
  extract_lets append literal again atStart atEnd
  have hjoin : (last.join before).folds = true := folds_join hbefore hlast
  have happend {node : Node} (hnode : node.folds = true) : ReadsFolding (append node) :=
    ih.alternative hflags top _ (.other node) hjoin hnode
  have hanchor {place : Anchor} (hplace : place.folds = true) : ReadsFolding
      (alternative fuel flags top (.sequence (last.join before) (.anchor place)) .anchor) :=
    ih.alternative hflags top _ .anchor (Bool.and_eq_true_iff.mpr ⟨hjoin, hplace⟩) trivial
  have hskip : ReadsFolding (alternative fuel flags top before last) :=
    ih.alternative hflags top before last hbefore hlast
  have hagain (least : Nat) (greatest : Option Nat) : ReadsFolding (again least greatest) :=
    (Reads.good fun _ => reads_repeated hlast least greatest).andThen fun part hpart =>
      ih.alternative hflags top _ .repetition (Bool.and_eq_true_iff.mpr ⟨hbefore, hpart⟩) trivial
  have hliteral (c : Char) : (literal c).folds = true := by
    simp [literal, Node.folds, CharTest.folds, hflags.fold]
  refine triple_peek.bind fun t? => ?_
  split
  -- The alternative ends, or there is a backslash without a character.
  next => exact triple_pure fun s hs => ⟨hjoin, hs.2⟩
  next => exact triple_pure fun s hs => ⟨hjoin, hs.2⟩
  next => exact triple_pure fun s hs => ⟨hjoin, hs.2⟩
  next => exact triple_malformed
  next c =>
    refine (Reads.good fun _ => reads_next).of_imp (fun s hs => hs.2) |>.andThen fun _ _ => ?_
    refine (Reads.good fun _ => reads_escape hflags c).andThen fun node hnode => ?_
    split
    next place => exact hanchor hnode
    next => exact happend hnode
  next c _ _ =>
    refine triple_next_of_peek.bind fun _ => ?_
    have hgood {m : Reader Node} (h : ReadsFolding m) :
        Triple (fun s => Good s ∧ KeepsCase (.plain c :: s.rest)) m fun p s =>
          p.folds = true ∧ Good s := h.of_imp fun s hs => hs.1
    refine triple_ite (fun _ => hgood hskip) fun _ => ?_
    refine triple_ite (fun _ => hgood ?_) fun _ => ?_
    · refine triple_get.andThen fun s₀ _ => ?_
      exact (Reads.good fun _ => reads_skipLine _).andThen fun _ _ => hskip
    refine triple_ite (fun _ => hgood ?_) fun _ => ?_
    · exact (Reads.good fun _ => reads_set hflags).andThen fun node hnode => happend hnode
    refine triple_ite (fun _ => hgood (happend ?_)) fun _ => ?_
    · cases flags.dotAll <;> rfl
    refine triple_ite (fun _ => hgood (hanchor ?_)) fun _ => ?_
    · simp only [atStart]
      cases flags.multiline <;> rfl
    refine triple_ite (fun _ => hgood (hanchor ?_)) fun _ => ?_
    · simp only [atEnd]
      cases flags.multiline <;> rfl
    refine triple_ite (fun _ => hgood (hagain _ _)) fun _ => ?_
    refine triple_ite (fun _ => hgood (hagain _ _)) fun _ => ?_
    refine triple_ite (fun _ => hgood (hagain _ _)) fun _ => ?_
    refine triple_ite (fun _ => hgood ?_) fun _ => ?_
    · refine (Reads.good fun _ => reads_braces).andThen fun bounds _ => ?_
      split
      next => exact happend (hliteral c)
      next => exact hagain _ _
    refine triple_ite (fun hparenthesis => ?_) fun _ => hgood (happend (hliteral c))
    -- Here flags may be set, so it matters which tokens have been taken.
    subst hparenthesis
    refine triple_accept_mark.bind fun mark => triple_ite (fun hmark => ?_) fun _ => ?_
    · refine Triple.andThen (A := Opening.IgnoresCase) (I := Good) ?_ fun o ho => ?_
      · rintro s o s' ⟨hs, hkeeps⟩ hrun
        exact triple_opening (hkeeps hmark) hflags s o s' ⟨rfl, hs.2⟩ hrun
      split
      next => exact hskip
      next =>
        split
        next =>
          refine triple_get.andThen fun s₀ hs₀ => ?_
          exact ih.alternative hs₀.2 _ .empty .nothing rfl trivial
        next => exact triple_malformed
      next group => exact (ih.grouped hflags group ho).andThen fun node hnode => happend hnode
    · refine Triple.of_imp ?_ fun s hs => hs.1
      exact (ih.grouped hflags (.capture none) trivial).andThen fun node hnode => happend hnode

theorem grouped_step (group : Group) (hgroup : group.IgnoresCase) :
    ReadsFolding (grouped (fuel + 1) flags group) := by
  have hclose {node : Node} (hnode : node.folds = true) :
      ReadsFolding (do expect ')'; return node) :=
    Reads.good fun _ => (reads_expect ')').bind fun _ _ => reads_pure hnode
  cases group with
  | node part => exact triple_pure fun s hs => ⟨hgroup, hs⟩
  | capture name =>
    refine (Reads.good fun _ => reads_openGroup name).andThen fun index _ => ?_
    refine (ih.alternatives hflags false).andThen fun body hbody => Reads.good fun _ => ?_
    refine (reads_expect ')').bind fun _ _ => (reads_closeGroup index body).bind fun _ _ => ?_
    exact reads_pure hbody
  | inside inner atomic =>
    refine (ih.alternatives hgroup false).andThen fun body hbody => hclose ?_
    cases atomic <;> exact hbody
  | look positive ahead =>
    cases ahead with
    | true => exact (ih.alternatives hflags false).andThen fun body hbody => hclose hbody
    | false =>
      refine triple_get.andThen fun s₀ _ => ?_
      extract_lets outer read
      have hread (u : Unit) : ReadsFolding (read u) := by
        refine (ih.alternatives hflags false).andThen fun body hbody => ?_
        extract_lets finish
        have hfinish (u : Unit) : ReadsFolding (finish u) := hclose hbody
        refine triple_ite (fun _ => ?_) fun _ => hfinish ()
        exact readsFolding_modify (fun _ => rfl) (fun _ => rfl) hfinish
      refine triple_ite (fun _ => ?_) fun _ => hread ()
      exact readsFolding_modify (fun _ => rfl) (fun _ => rfl) hread
  | condition index =>
    refine (ih.alternative hflags false .empty .nothing rfl trivial).andThen fun yes hyes => ?_
    refine (Reads.good fun _ => reads_accept '|').andThen fun _ _ => ?_
    extract_lets finish
    have hfinish (no : Node) (hno : no.folds = true) : ReadsFolding (finish no) :=
      hclose (Bool.and_eq_true_iff.mpr ⟨hyes, hno⟩)
    refine triple_ite (fun _ => ?_) fun _ => hfinish .empty rfl
    exact (ih.alternative hflags false .empty .nothing rfl trivial).andThen hfinish

end Step

theorem allFold (fuel : Nat) : AllFold fuel := by
  induction fuel with
  | zero => exact ⟨fun _ _ => triple_malformed, fun _ _ _ _ => triple_malformed,
      fun _ _ _ _ _ _ => triple_malformed, fun _ _ _ => triple_malformed⟩
  | succ fuel ih => exact
    { alternatives := alternatives_step ih
      moreAlternatives := moreAlternatives_step ih
      alternative := alternative_step ih
      grouped := grouped_step ih }

/-- **What is read ignores case** in all of its parts, if no group of flags has case matter. -/
theorem folds_of_parse {text : String} {characters : Text.CharacterNames} {p : Node}
    (hkeeps : KeepsCase (tokens text.toList)) (h : parse text characters = .ok p) :
    p.folds = true := by
  unfold parse at h
  obtain ⟨⟨part, s⟩, hrun, h⟩ := bind_eq_ok.mp (eq_ok_of_check h)
  -- The five checks of the whole pattern do not change it.
  replace h := eq_ok_of_check (eq_ok_of_check (eq_ok_of_check (eq_ok_of_check (eq_ok_of_check h))))
  rw [← show part = p from Except.ok.inj h]
  exact ((allFold _).alternatives ⟨rfl, rfl⟩ true _ _ _ ⟨hkeeps, rfl, rfl⟩ hrun).1

end DocView.Pattern
