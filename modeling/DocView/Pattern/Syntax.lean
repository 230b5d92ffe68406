import DocView.Text.Blank
import DocView.Text.Case
import DocView.Text.Digit
import DocView.Text.Letter

/-!
# Regular expressions

The tree of a regular expression. Flags are resolved while the tree is built, so every node says
by itself how it matches; nothing else has to be carried along.

## One character

A `CharTest` decides about one character. When case is ignored, a character is first taken to its
lower case, and so are the members of a set. A few lower-case letters share an upper case - the
long and the short s, the two small sigmas - and count as the same letter. The ranges of a set
are taken to lower case character by character in the basic plane only; beyond it, a character is
in a range if its lower or its upper case is.

A set none of whose members has case is tested on the character as it stands.

## Main definitions

* `Pattern.CharTest`, `CharTest.accepts`
* `Pattern.Node`, `Node.width`
-/

namespace DocView.Pattern

/-! ### Characters -/

/-- Whether letter case matters, and over which alphabet it is ignored. -/
inductive Fold where
  | exact
  | ascii
  | full
deriving DecidableEq, Repr

/-- The lower case of a character under a folding. -/
def Fold.lower : Fold → Char → Char
  | .exact, c => c
  | .ascii, c => c.toLower
  | .full, c => Text.simpleLower c

/-- Whether a character has case under a folding. -/
def Fold.hasCase : Fold → Char → Bool
  | .exact, _ => false
  | .ascii, c => c.isAlpha
  | .full, c => Text.isCased c

/-- The lower-case letters that count as the same as a given one, itself included. -/
def Fold.siblings : Fold → Char → List Char
  | .full, c => c :: Text.caseSiblings c
  | _, c => [c]

/-- The classes that have a name. -/
inductive ClassName where
  | digit
  | space
  | word
deriving DecidableEq, Repr

/-- Whether a character is in a class, over all scripts or in ASCII only. -/
def ClassName.contains (name : ClassName) (ascii : Bool) (c : Char) : Bool :=
  match name, ascii with
  | .digit, true => c.isDigit
  | .digit, false => Text.isDigit c
  | .space, true => c == ' ' || (9 ≤ c.toNat && c.toNat ≤ 13)
  | .space, false => Text.isBlank c
  | .word, true => c.isAlphanum || c == '_'
  | .word, false => Text.isLetterOrNumber c || c == '_'

/-- A member of a set. Characters are given by number, since a pattern may name half of a
surrogate pair. -/
inductive Member where
  | single (code : Nat)
  | range (low high : Nat)
  | named (name : ClassName) (negated : Bool)
deriving DecidableEq, Repr

/-- The last code point of the basic plane. -/
def lastBasic : Nat := 0xFFFF

/-- The character with a code, if there is one. -/
def charOf? (code : Nat) : Option Char :=
  if code.isValidChar then some (Char.ofNat code) else none

/-- The characters whose lower case is a given character. -/
def lowerSources (fold : Fold) (c : Char) : List Char :=
  let itself := if fold.lower c == c then [c] else []
  match fold with
  | .exact => [c]
  | .ascii => if c.isLower then c.toUpper :: itself else itself
  | .full =>
    let ascii := if c.isLower then [c.toUpper] else []
    let dotted := if c = 'i' then [Char.ofNat 0x130] else []
    let mapped := Text.lowerRuns.toList.filterMap fun run =>
      let distance := c.toNat - run.target
      if run.target ≤ c.toNat ∧ distance ≤ run.length ∧ distance % run.stride = 0 then
        charOf? (run.first + distance)
      else none
    itself ++ ascii ++ dotted ++ mapped

/-- Whether some character of a range has case. -/
def rangeHasCase (fold : Fold) (low high : Nat) : Bool :=
  (List.range (high + 1 - low)).any fun i =>
    match charOf? (low + i) with
    | some c => fold.hasCase c
    | none => false

namespace Member

/-- Whether a member has case, so that its set is tested in lower case. -/
def hasCase (fold : Fold) : Member → Bool
  | .single code =>
    match charOf? code with
    | some c => fold.hasCase c || lastBasic < (fold.lower c).toNat
    | none => false
  | .range low high => lastBasic < high || rangeHasCase fold low high
  | .named _ _ => false

/-- Whether a character as it stands is a member. -/
def holdsExactly (ascii : Bool) (c : Char) : Member → Bool
  | .single code => c.toNat == code
  | .range low high => low ≤ c.toNat && c.toNat ≤ high
  | .named name negated => name.contains ascii c != negated

/-- Whether a character that has been taken to lower case is a member. -/
def holdsFolded (fold : Fold) (ascii : Bool) (c : Char) : Member → Bool
  | .single code =>
    match charOf? code with
    | none => false
    | some member =>
      let low := fold.lower member
      if lastBasic < low.toNat then c == member else (fold.siblings low).contains c
  | .range low high =>
    let basic := (fold.siblings c).any fun y =>
      (lowerSources fold y).any fun x => low ≤ x.toNat && x.toNat ≤ min high lastBasic
    let upper := Text.simpleUpper c
    let beyond := lastBasic < high &&
      ((low ≤ c.toNat && c.toNat ≤ high) || (low ≤ upper.toNat && upper.toNat ≤ high))
    basic || beyond
  | .named name negated => name.contains ascii c != negated

end Member

/-- A test of one character. -/
inductive CharTest where
  | any
  | anyButLineBreak
  | literal (fold : Fold) (negated : Bool) (code : Nat)
  | set (fold : Fold) (ascii negated : Bool) (members : List Member)
deriving DecidableEq, Repr

/-- Whether a character passes a test. -/
def CharTest.accepts (c : Char) : CharTest → Bool
  | .any => true
  | .anyButLineBreak => c != '\n'
  | .literal fold negated code =>
    let same := match charOf? code with
      | none => false
      | some l =>
        if fold.hasCase l then (fold.siblings (fold.lower l)).contains (fold.lower c)
        else c == l
    same != negated
  | .set fold ascii negated members =>
    let inside :=
      if fold != .exact && members.any (Member.hasCase fold) then
        members.any (Member.holdsFolded fold ascii (fold.lower c))
      else members.any (Member.holdsExactly ascii c)
    inside != negated

/-! ### Trees -/

/-- A place between characters. -/
inductive Anchor where
  | textStart
  | lineStart
  | textEnd
  | beforeFinalBreak
  | lineEnd
  | wordEdge (ascii : Bool)
  | noWordEdge (ascii : Bool)
deriving DecidableEq, Repr

/-- How eagerly a repetition takes characters, and whether it gives them back. -/
inductive Greed where
  | greedy
  | lazy
  | possessive
deriving DecidableEq, Repr

/-- The least and the greatest number of characters that something can match. -/
structure Width where
  least : Nat
  greatest : Nat
deriving DecidableEq, Repr, Inhabited

/-- A regular expression. -/
inductive Node where
  | empty
  | char (test : CharTest)
  | anchor (place : Anchor)
  | sequence (first second : Node)
  | choice (first second : Node)
  | group (index : Nat) (body : Node)
  | atomic (body : Node)
  | repetition (greed : Greed) (least : Nat) (greatest : Option Nat) (body : Node)
  | ahead (positive : Bool) (body : Node)
  | behind (width : Width) (positive : Bool) (body : Node)
  | reference (index : Nat) (fold : Fold) (width : Width)
  | conditional (index : Nat) (yes no : Node)
deriving Repr, Inhabited

/-- The largest width that is told apart. -/
def maxWidth : Nat := Nat.pow 2 64

/-- Stands for an open end when widths are multiplied. -/
def openEnd : Nat := 4294967295

namespace Node

/-- The width of what a node matches. -/
def width : Node → Width
  | .empty | .anchor _ | .ahead _ _ | .behind _ _ _ => ⟨0, 0⟩
  | .char _ => ⟨1, 1⟩
  | .sequence a b =>
    let x := a.width
    let y := b.width
    ⟨min (x.least + y.least) maxWidth, min (x.greatest + y.greatest) maxWidth⟩
  | .choice a b =>
    let x := a.width
    let y := b.width
    ⟨min x.least y.least, max x.greatest y.greatest⟩
  | .group _ body | .atomic body => body.width
  | .repetition _ least greatest body =>
    let x := body.width
    ⟨min (x.least * least) maxWidth,
      match greatest with
      | none => if x.greatest = 0 then 0 else maxWidth
      | some n => min (x.greatest * n) maxWidth⟩
  | .reference _ _ width => width
  | .conditional _ yes no =>
    let x := yes.width
    let y := no.width
    ⟨min x.least y.least, max x.greatest y.greatest⟩

/-- Whether every part that looks behind has a fixed width. -/
def looksBehindByFixedWidth : Node → Bool
  | .empty | .char _ | .anchor _ | .reference _ _ _ => true
  | .sequence a b | .choice a b | .conditional _ a b =>
    a.looksBehindByFixedWidth && b.looksBehindByFixedWidth
  | .group _ body | .atomic body | .repetition _ _ _ body | .ahead _ body =>
    body.looksBehindByFixedWidth
  | .behind width _ body =>
    width.least == width.greatest && width.least ≤ openEnd && body.looksBehindByFixedWidth

/-- Whether a repetition occurs. -/
def repeats : Node → Bool
  | .empty | .char _ | .anchor _ | .reference _ _ _ => false
  | .sequence a b | .choice a b | .conditional _ a b => a.repeats || b.repeats
  | .group _ body | .atomic body | .ahead _ body | .behind _ _ body => body.repeats
  | .repetition _ _ _ _ => true

end Node

end DocView.Pattern
