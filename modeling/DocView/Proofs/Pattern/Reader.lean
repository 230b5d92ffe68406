import DocView.Pattern.Parser
import DocView.Proofs.Pattern.Folding
import DocView.Proofs.Result
import Mathlib.Data.List.Infix

/-!
# What the reader of patterns does to its state

The reader goes forward: what remains to be read is a later part of what there was. It looks ahead
without taking anything, and where it goes back, it goes back to where it started. The flags for the
whole pattern are set in one place only, where a group of flags has been read, so everything else
leaves them as they are.

A part that is read under flags that ignore case ignores case itself.

## Main definitions

* `Pattern.Triple` - what holds before and after a reader
* `Pattern.Reads` - readers that go forward and leave the flags alone
* `Pattern.Flags.IgnoreCase` - flags that ignore case all over Unicode

## Main results

* `Pattern.reads_set`, `Pattern.reads_escape` - parts that are read ignore case if the flags do
-/

namespace DocView.Pattern

variable {α β : Type}

/-! ### What holds after a reader -/

section

variable {P : State → Prop} {Q : α → State → Prop} {s s' : State}

/-- What holds after a reader has succeeded that was started where something else held. -/
def Triple (P : State → Prop) (m : Reader α) (Q : α → State → Prop) : Prop :=
  ∀ s a s', P s → m.run s = .ok (a, s') → Q a s'

theorem Triple.of_imp {m : Reader α} {P' : State → Prop} (h : Triple P m Q)
    (hP : ∀ s, P' s → P s) : Triple P' m Q := fun s a s' hs hrun => h s a s' (hP s hs) hrun

theorem triple_pure {a : α} (h : ∀ s, P s → Q a s) : Triple P (pure a) Q := by
  intro s b s' hs hrun
  cases hrun
  exact h s hs

theorem run_bind_eq_ok {m : Reader α} {k : α → Reader β} {b : β} :
    (m >>= k).run s = .ok (b, s') ↔
      ∃ a t, m.run s = .ok (a, t) ∧ (k a).run t = .ok (b, s') := by
  rw [StateT.run_bind, bind_eq_ok]
  exact ⟨fun ⟨(a, t), hm, hk⟩ => ⟨a, t, hm, hk⟩, fun ⟨a, t, hm, hk⟩ => ⟨(a, t), hm, hk⟩⟩

theorem Triple.bind {m : Reader α} {k : α → Reader β} {R : β → State → Prop}
    (hm : Triple P m Q) (hk : ∀ a, Triple (Q a) (k a) R) : Triple P (m >>= k) R := by
  intro s b s' hs hrun
  obtain ⟨a, u, ha, hb⟩ := run_bind_eq_ok.mp hrun
  exact hk a u b s' (hm s a u hs ha) hb

/-- The first reader keeps something up and says something about its answer besides. -/
theorem Triple.andThen {A : α → Prop} {m : Reader α} {k : α → Reader β} {I : State → Prop}
    {R : β → State → Prop} (hm : Triple P m fun a s => A a ∧ I s)
    (hk : ∀ a, A a → Triple I (k a) R) : Triple P (m >>= k) R :=
  hm.bind fun a s b s' hs => hk a hs.1 s b s' hs.2

theorem triple_throw (fault : Fault) : Triple P (throw fault : Reader α) Q := by
  intro s a s' _ hrun
  cases hrun

theorem triple_malformed : Triple P (malformed : Reader α) Q := triple_throw .malformed

theorem triple_get : Triple P (get : Reader State) fun a s => P a ∧ P s := by
  intro s a s' hs hrun
  cases hrun
  exact ⟨hs, hs⟩

theorem triple_modify {f : State → State} {Q : Unit → State → Prop} (h : ∀ s, P s → Q () (f s)) :
    Triple P (modify f : Reader Unit) Q := by
  intro s a s' hs hrun
  cases hrun
  exact h s hs

theorem triple_ite {c : Prop} [Decidable c] {m k : Reader α} (hm : c → Triple P m Q)
    (hk : ¬ c → Triple P k Q) : Triple P (if c then m else k) Q := by
  by_cases h : c
  · rw [if_pos h]
    exact hm h
  · rw [if_neg h]
    exact hk h

/-- A check, and what comes after it. -/
theorem triple_unless {c : Prop} [Decidable c] {k : Unit → Reader α}
    (hk : ¬ c → Triple P (k ()) Q) : Triple P (if c then malformed >>= k else k ()) Q :=
  triple_ite (fun _ => (triple_malformed (Q := fun _ _ => False)).bind
    fun _ _ _ _ h => h.elim) hk

end

/-! ### Readers that go forward -/

variable {Q : α → Prop} {P : β → Prop} {start : List Token} {s s' : State}

/-- A reader that does not leave the last part of a list of tokens, once it is there, and does not
change the flags for the whole pattern. If it succeeds, its answer has a property. -/
def Reads (start : List Token) (Q : α → Prop) (m : Reader α) : Prop :=
  ∀ flags, Triple (fun s => s.rest <:+ start ∧ s.flags = flags) m
    fun a s => Q a ∧ s.rest <:+ start ∧ s.flags = flags

theorem reads_pure {a : α} (h : Q a) : Reads start Q (pure a) :=
  fun _ => triple_pure fun _ hs => ⟨h, hs⟩

theorem Reads.bind {m : Reader α} {k : α → Reader β} (hm : Reads start Q m)
    (hk : ∀ a, Q a → Reads start P (k a)) : Reads start P (m >>= k) :=
  fun flags => (hm flags).andThen fun a ha => hk a ha flags

theorem reads_throw (fault : Fault) : Reads start Q (throw fault : Reader α) :=
  fun _ => triple_throw fault

theorem reads_malformed : Reads start Q (malformed : Reader α) := reads_throw .malformed

theorem reads_get : Reads start (fun s : State => s.rest <:+ start) get := by
  intro flags s a s' hs hrun
  cases hrun
  exact ⟨hs.1, hs⟩

theorem reads_modify {f : State → State} (hrest : ∀ s, (f s).rest = s.rest)
    (hflags : ∀ s, (f s).flags = s.flags) :
    Reads start (fun _ => True) (modify f : Reader Unit) :=
  fun _ => triple_modify fun s hs =>
    ⟨trivial, (hrest s).symm ▸ hs.1, (hflags s).trans hs.2⟩

theorem reads_ite {c : Prop} [Decidable c] {m k : Reader α} (hm : c → Reads start Q m)
    (hk : ¬ c → Reads start Q k) : Reads start Q (if c then m else k) :=
  fun flags => triple_ite (fun h => hm h flags) fun h => hk h flags

theorem reads_unless {c : Prop} [Decidable c] {k : Unit → Reader α}
    (hk : ¬ c → Reads start Q (k ())) : Reads start Q (if c then malformed >>= k else k ()) :=
  fun flags => triple_unless fun h => hk h flags

/-! ### Tokens -/

theorem reads_peek : Reads start (fun _ => True) peek :=
  reads_get.bind fun _ _ => reads_pure trivial

theorem goTo_eq_ok {rest : List Token} (h : (goTo rest).run s = .ok ((), s')) :
    s' = { s with rest := rest } := by
  unfold goTo at h
  split at h
  · obtain ⟨_, _, hfault, -⟩ := run_bind_eq_ok.mp h
    cases hfault
  · cases h
    rfl

theorem reads_goTo {rest : List Token} (h : rest <:+ start) :
    Reads start (fun _ => True) (goTo rest) := by
  rintro _ s a s' ⟨-, rfl⟩ hrun
  obtain rfl := goTo_eq_ok hrun
  exact ⟨trivial, h, rfl⟩

/-- The next token has been taken, or there was none. -/
theorem next_eq_ok {t? : Option Token} (h : next.run s = .ok (t?, s')) :
    (t? = none ∧ s.rest = [] ∧ s' = s) ∨
      ∃ t, t? = some t ∧ s.rest = t :: s'.rest ∧ s' = { s with rest := s'.rest } := by
  unfold next at h
  obtain ⟨_, _, hget, h⟩ := run_bind_eq_ok.mp h
  cases hget
  split at h
  next hnone =>
    cases h
    exact .inl ⟨rfl, hnone, rfl⟩
  next t rest hrest =>
    obtain ⟨_, _, hgo, h⟩ := run_bind_eq_ok.mp h
    cases h
    obtain rfl := goTo_eq_ok hgo
    exact .inr ⟨t, rfl, hrest, rfl⟩

theorem reads_next : Reads start (fun _ => True) next := by
  rintro _ s t? s' ⟨hstart, rfl⟩ hrun
  rcases next_eq_ok hrun with ⟨-, -, rfl⟩ | ⟨t, -, hrest, hs⟩
  · exact ⟨trivial, hstart, rfl⟩
  · rw [hrest] at hstart
    exact ⟨trivial, (List.suffix_cons t _).trans hstart, by rw [hs]⟩

/-- The character has been taken, or it was not the next one. -/
theorem accept_eq_ok {c : Char} {b : Bool} (h : (accept c).run s = .ok (b, s')) :
    (b = false ∧ s' = s) ∨
      b = true ∧ s.rest = .plain c :: s'.rest ∧ s' = { s with rest := s'.rest } := by
  unfold accept peek at h
  obtain ⟨_, _, hpeek, h⟩ := run_bind_eq_ok.mp h
  cases hpeek
  split at h
  next hhead =>
    obtain ⟨_, _, hnext, h⟩ := run_bind_eq_ok.mp h
    cases h
    rcases next_eq_ok hnext with ⟨-, hnone, -⟩ | ⟨t, rfl, hrest, hs⟩
    · rw [hnone] at hhead
      cases hhead
    · rw [hrest, List.head?_cons] at hhead
      obtain rfl := Option.some.inj hhead
      exact .inr ⟨rfl, hrest, hs⟩
  next =>
    cases h
    exact .inl ⟨rfl, rfl⟩

theorem reads_accept (c : Char) : Reads start (fun _ => True) (accept c) := by
  rintro _ s b s' ⟨hstart, rfl⟩ hrun
  rcases accept_eq_ok hrun with ⟨-, rfl⟩ | ⟨-, hrest, hs⟩
  · exact ⟨trivial, hstart, rfl⟩
  · rw [hrest] at hstart
    exact ⟨trivial, (List.suffix_cons _ _).trans hstart, by rw [hs]⟩

theorem reads_expect (c : Char) : Reads start (fun _ => True) (expect c) := by
  refine (reads_accept c).bind fun b _ => ?_
  exact reads_ite (fun _ => reads_malformed) fun _ => reads_pure trivial

theorem reads_takeUpTo (test : Char → Bool) (n : Nat) :
    Reads start (fun _ => True) (takeUpTo test n) := by
  induction n with
  | zero => exact reads_pure trivial
  | succ n ih =>
    refine reads_peek.bind fun t? _ => ?_
    split
    next c =>
      refine reads_ite (fun _ => ?_) fun _ => reads_pure trivial
      exact reads_next.bind fun _ _ => ih.bind fun _ _ => reads_pure trivial
    next => exact reads_pure trivial

theorem reads_takeAll (test : Char → Bool) : Reads start (fun _ => True) (takeAll test) :=
  reads_get.bind fun s _ => reads_takeUpTo test s.rest.length

theorem reads_takeUntil (stop : Char) (fuel : Nat) (acc : List Char) :
    Reads start (fun _ => True) (takeUntil stop fuel acc) := by
  induction fuel generalizing acc with
  | zero => exact reads_malformed
  | succ fuel ih =>
    refine reads_next.bind fun t? _ => ?_
    split
    next => exact reads_malformed
    next t =>
      refine reads_ite (fun _ => ?_) fun _ => ih _
      exact reads_ite (fun _ => reads_malformed) fun _ => reads_pure trivial

theorem reads_label (stop : Char) : Reads start (fun _ => True) (label stop) :=
  reads_get.bind fun _ _ => reads_takeUntil stop _ _

/-! ### Escapes -/

theorem reads_hexCode (count : Nat) : Reads start (fun _ => True) (hexCode count) := by
  refine (reads_takeUpTo _ _).bind fun ds _ => ?_
  exact reads_unless fun _ => reads_unless fun _ => reads_pure trivial

theorem reads_namedCode : Reads start (fun _ => True) namedCode := by
  refine (reads_expect _).bind fun _ _ => (reads_label _).bind fun name _ => ?_
  refine reads_get.bind fun s _ => ?_
  split
  · exact reads_pure trivial
  · exact reads_malformed

theorem reads_characterEscape (c : Char) : Reads start (fun _ => True) (characterEscape c) := by
  unfold characterEscape
  repeat' refine reads_ite (fun _ => ?_) fun _ => ?_
  all_goals first
    | exact reads_pure trivial
    | exact reads_hexCode _
    | exact reads_namedCode
    | exact reads_malformed

theorem reads_octalCode (first : Char) : Reads start (fun _ => True) (octalCode first) := by
  unfold octalCode
  refine (reads_takeUpTo _ _).bind fun ds _ => ?_
  exact reads_unless fun _ => reads_pure trivial

/-! ### Sets -/

theorem reads_memberEscape (c : Char) : Reads start (fun _ => True) (memberEscape c) := by
  unfold memberEscape
  split
  next => exact reads_pure trivial
  next =>
    refine reads_ite (fun _ => reads_pure trivial) fun _ => ?_
    refine reads_ite (fun _ => (reads_octalCode c).bind fun _ _ => reads_pure trivial) fun _ => ?_
    refine reads_ite (fun _ => reads_malformed) fun _ => ?_
    exact (reads_characterEscape c).bind fun _ _ => reads_pure trivial

theorem reads_memberOf (t : Token) : Reads start (fun _ => True) (memberOf t) := by
  cases t with
  | plain c => exact reads_pure trivial
  | escape c => exact reads_memberEscape c
  | dangling => exact reads_malformed

theorem reads_members (fuel : Nat) (acc : List Member) :
    Reads start (fun _ => True) (members fuel acc) := by
  induction fuel generalizing acc with
  | zero => exact reads_malformed
  | succ fuel ih =>
    refine reads_next.bind fun t? _ => ?_
    split
    next => exact reads_malformed
    next t =>
      refine reads_ite (fun _ => reads_pure trivial) fun _ => ?_
      refine (reads_memberOf t).bind fun low _ => (reads_accept '-').bind fun b _ => ?_
      refine reads_ite (fun _ => ih _) fun _ => reads_next.bind fun u? _ => ?_
      split
      next => exact reads_malformed
      next u =>
        refine reads_ite (fun _ => reads_pure trivial) fun _ => ?_
        refine (reads_memberOf u).bind fun high _ => ?_
        split
        next => exact reads_ite (fun _ => reads_malformed) fun _ => ih _
        next => exact reads_malformed

/-! ### Flags -/

/-- Flags that ignore case all over Unicode. -/
structure Flags.IgnoreCase (f : Flags) : Prop where
  /-- Case is ignored. -/
  ignoreCase : f.ignoreCase = true
  /-- Letters and words are not those of ASCII. -/
  ascii : f.ascii = false

theorem Flags.IgnoreCase.fold {f : Flags} (h : f.IgnoreCase) : f.fold = .full := by
  rw [Flags.fold, h.ignoreCase, h.ascii]
  rfl

variable {flags : Flags}

theorem reads_set (h : flags.IgnoreCase) :
    Reads start (fun node => node.folds = true) (set flags) := by
  refine (reads_accept '^').bind fun negated _ => reads_get.bind fun s _ => ?_
  refine (reads_members _ _).bind fun ms _ => ?_
  split
  next => exact reads_pure (by simp [Node.folds, CharTest.folds, h.fold])
  next => exact reads_pure (by simp [Node.folds, CharTest.folds, h.fold, h.ascii])

theorem reads_closedWidth (index : Nat) : Reads start (fun _ => True) (closedWidth index) := by
  refine reads_get.bind fun s _ => ?_
  split
  next =>
    split
    next => exact reads_ite (fun _ => reads_malformed) fun _ => reads_pure trivial
    next => exact reads_pure trivial
  next => exact reads_malformed

theorem reads_reference (h : flags.IgnoreCase) (index : Nat) :
    Reads start (fun node => node.folds = true) (reference flags index) :=
  (reads_closedWidth index).bind fun _ _ => reads_pure (by simp [Node.folds, h.fold])

theorem reads_escape (h : flags.IgnoreCase) (c : Char) :
    Reads start (fun node => node.folds = true) (escape flags c) := by
  have hliteral (code : Nat) :
      (Node.char (.literal flags.fold false code)).folds = true := by
    simp [Node.folds, CharTest.folds, h.fold]
  unfold escape
  split
  next member _ => exact reads_pure (by simp [Node.folds, CharTest.folds, h.fold, h.ascii])
  next =>
    refine reads_ite (fun _ => reads_pure rfl) fun _ => ?_
    refine reads_ite (fun _ => reads_pure rfl) fun _ => ?_
    refine reads_ite (fun _ => reads_pure (by simp [Node.folds, Anchor.folds, h.ascii])) fun _ => ?_
    refine reads_ite (fun _ => reads_pure (by simp [Node.folds, Anchor.folds, h.ascii])) fun _ => ?_
    refine reads_ite (fun _ => ?_) fun _ => ?_
    · exact (reads_takeUpTo _ _).bind fun _ _ => reads_pure (hliteral _)
    refine reads_ite (fun _ => ?_) fun _ => ?_
    · refine (reads_takeUpTo _ _).bind fun ds _ => ?_
      split
      next d =>
        extract_lets choose
        have hchoose (third : List Char) :
            Reads start (fun node => node.folds = true) (choose third) := by
          unfold choose
          split
          next => exact reads_unless fun _ => reads_pure (hliteral _)
          next => exact reads_reference h _
        refine reads_ite (fun _ => ?_) fun _ => hchoose []
        exact (reads_takeUpTo _ _).bind fun third _ => hchoose third
      next => exact reads_reference h _
    · exact (reads_characterEscape c).bind fun _ _ => reads_pure (hliteral _)

theorem reads_openGroup (name : Option String) : Reads start (fun _ => True) (openGroup name) := by
  refine reads_get.bind fun s _ => ?_
  refine reads_unless fun _ => ?_
  refine (reads_modify ?_ ?_).bind fun _ _ => reads_pure trivial
  · exact fun _ => rfl
  · exact fun _ => rfl

theorem reads_closeGroup (index : Nat) (body : Node) :
    Reads start (fun _ => True) (closeGroup index body) :=
  reads_modify (fun _ => rfl) fun _ => rfl

theorem reads_count (ds : List Char) : Reads start (fun _ => True) (count ds) := by
  unfold count
  refine reads_ite (fun _ => reads_pure trivial) fun _ => ?_
  refine reads_ite (fun _ => reads_malformed) fun _ => ?_
  exact reads_ite (fun _ => reads_throw _) fun _ => reads_pure trivial

theorem reads_braces : Reads start (fun _ => True) braces := by
  unfold braces
  refine reads_get.bind fun s hs => reads_peek.bind fun _ _ => ?_
  refine reads_ite (fun _ => reads_pure trivial) fun _ => ?_
  refine (reads_takeAll _).bind fun low _ => (reads_accept ',').bind fun _ _ => ?_
  extract_lets close
  have hclose (high : List Char) : Reads start (fun _ => True) (close high) := by
    refine (reads_accept _).bind fun closed _ => ?_
    refine reads_ite (fun _ => ?_) fun _ => ?_
    · exact (reads_goTo hs).bind fun _ _ => reads_pure trivial
    · refine (reads_count low).bind fun least _ => (reads_count high).bind fun greatest _ => ?_
      split
      next => exact reads_ite (fun _ => reads_malformed) fun _ => reads_pure trivial
      next => exact reads_pure trivial
  refine reads_ite (fun _ => ?_) fun _ => hclose low
  exact (reads_takeAll _).bind fun high _ => hclose high

theorem reads_skipLine (fuel : Nat) : Reads start (fun _ => True) (skipLine fuel) := by
  induction fuel with
  | zero => exact reads_pure trivial
  | succ fuel ih =>
    refine reads_next.bind fun t? _ => ?_
    split
    next => exact reads_pure trivial
    next t => exact reads_ite (fun _ => reads_pure trivial) fun _ => ih

theorem reads_skipComment (fuel : Nat) : Reads start (fun _ => True) (skipComment fuel) := by
  induction fuel with
  | zero => exact reads_malformed
  | succ fuel ih =>
    refine reads_next.bind fun t? _ => ?_
    split
    next => exact reads_malformed
    next t => exact reads_ite (fun _ => reads_pure trivial) fun _ => ih

theorem reads_conditionIndex (cs : List Char) :
    Reads start (fun _ => True) (conditionIndex cs) := by
  refine reads_get.bind fun s _ => ?_
  refine reads_ite (fun _ => ?_) fun _ => ?_
  · split
    next => exact reads_pure trivial
    next => exact reads_malformed
  · split
    next n _ =>
      refine reads_unless fun _ => ?_
      refine (reads_modify ?_ ?_).bind fun _ _ => reads_pure trivial
      · exact fun _ => rfl
      · exact fun _ => rfl
    next => exact reads_malformed

theorem reads_checkCondition (index : Nat) :
    Reads start (fun _ => True) (checkCondition index) := by
  refine reads_get.bind fun s _ => ?_
  refine reads_ite (fun _ => ?_) fun _ => reads_pure trivial
  refine (reads_closedWidth index).bind fun _ _ => ?_
  exact reads_pure trivial

end DocView.Pattern
