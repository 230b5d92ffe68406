import DocView.Pattern.Parser

/-!
# Matching regular expressions

A node is matched at a cursor, and what is to be matched after it is a function: a node succeeds
if it can be matched so that the rest succeeds as well. Backtracking is then nothing but asking
the rest again from another cursor, and the matcher recurses on the node alone.

## Repetitions

An iteration beyond the required ones is tried only at a position other than the one where the
previous such iteration started. Positions never go back, so the optional iterations are at most
one more than the characters of the text, and this bounds the loop.

## Edges of words

In an empty text there is no place to be at the edge of a word, nor inside of or between words:
both anchors fail.

## Main definitions

* `Pattern.Node.run`
* `Pattern.found?`
-/

namespace DocView.Pattern

/-- A place in the text, with what the groups have matched. Of several entries for a group, the
first one counts. -/
structure Cursor where
  position : Nat
  starts : List (Nat × Nat)
  ends : List (Nat × Nat)
deriving DecidableEq, Repr

namespace Cursor

/-- The cursor at a position, with the same groups. -/
def moveTo (c : Cursor) (position : Nat) : Cursor := { c with position := position }

/-- The cursor with the start of a group set to the position. -/
def openGroup (c : Cursor) (index : Nat) : Cursor :=
  { c with starts := (index, c.position) :: c.starts }

/-- The cursor with the end of a group set to the position. -/
def closeGroup (c : Cursor) (index : Nat) : Cursor :=
  { c with ends := (index, c.position) :: c.ends }

/-- Where a group starts and ends, if it has matched. -/
def group? (c : Cursor) (index : Nat) : Option (Nat × Nat) :=
  match List.lookup index c.starts, List.lookup index c.ends with
  | some first, some last => if first ≤ last then some (first, last) else none
  | _, _ => none

end Cursor

/-- What is to be matched after a node. -/
abbrev Continuation := Cursor → Option Cursor

/-! ### Anchors and references -/

/-- Whether the character at a position is part of a word. -/
def inWord (text : Array Char) (ascii : Bool) (position : Nat) : Bool :=
  match text[position]? with
  | some c => ClassName.word.contains ascii c
  | none => false

/-- Whether a position is at the edge of a word. -/
def atWordEdge (text : Array Char) (ascii : Bool) (position : Nat) : Bool :=
  (0 < position && inWord text ascii (position - 1)) != inWord text ascii position

/-- Whether an anchor holds at a position. -/
def Anchor.holds (text : Array Char) (position : Nat) : Anchor → Bool
  | .textStart => position == 0
  | .lineStart => position == 0 || text[position - 1]? == some '\n'
  | .textEnd => position == text.size
  | .beforeFinalBreak =>
    position == text.size || (position + 1 == text.size && text[position]? == some '\n')
  | .lineEnd => position == text.size || text[position]? == some '\n'
  | .wordEdge ascii => !text.isEmpty && atWordEdge text ascii position
  | .noWordEdge ascii => !text.isEmpty && !atWordEdge text ascii position

/-- Whether the same characters stand at two positions. -/
def repeatsAt (text : Array Char) (fold : Fold) (first second : Nat) : Nat → Bool
  | 0 => true
  | count + 1 =>
    match text[first]?, text[second]? with
    | some a, some b =>
      fold.lower a == fold.lower b && repeatsAt text fold (first + 1) (second + 1) count
    | _, _ => false

/-! ### Repetitions -/

/-- The bounds of a repetition, and a match of its body. -/
structure Loop where
  least : Nat
  greatest : Option Nat
  body : Cursor → Continuation → Option Cursor

/-- Whether an iteration beyond the required ones may be tried. -/
def Loop.mayTry (loop : Loop) (count : Nat) (last : Option Nat) (c : Cursor) : Bool :=
  (match loop.greatest with
    | some greatest => count < greatest
    | none => true) && last != some c.position

/-- As many iterations as possible, then the rest. -/
def Loop.greedy (loop : Loop) (after : Continuation) :
    Nat → Nat → Option Nat → Continuation
  | 0, _, _, _ => none
  | fuel + 1, count, last, c =>
    if count < loop.least then loop.body c (loop.greedy after fuel (count + 1) last)
    else if loop.mayTry count last c then
      (loop.body c (loop.greedy after fuel (count + 1) (some c.position))).orElse fun _ => after c
    else after c

/-- As few iterations as possible, then the rest. -/
def Loop.lazy (loop : Loop) (after : Continuation) :
    Nat → Nat → Option Nat → Continuation
  | 0, _, _, _ => none
  | fuel + 1, count, last, c =>
    if count < loop.least then loop.body c (loop.lazy after fuel (count + 1) last)
    else (after c).orElse fun _ =>
      if loop.mayTry count last c then
        loop.body c (loop.lazy after fuel (count + 1) (some c.position))
      else none

/-- As many iterations as possible, none of which is given back. -/
def Loop.possessive (loop : Loop) : Nat → Nat → Option Nat → Continuation
  | 0, _, _, _ => none
  | fuel + 1, count, last, c =>
    if count < loop.least then
      (loop.body c some).bind (loop.possessive fuel (count + 1) last)
    else if loop.mayTry count last c then
      match loop.body c some with
      | some d => loop.possessive fuel (count + 1) (some c.position) d
      | none => some c
    else some c

/-- Runs a repetition in a text of a given size. -/
def Loop.run (loop : Loop) (greed : Greed) (size : Nat) (c : Cursor) (after : Continuation) :
    Option Cursor :=
  let fuel := loop.least + size + 3
  match greed with
  | .greedy => loop.greedy after fuel 0 none c
  | .lazy => loop.lazy after fuel 0 none c
  | .possessive => (loop.possessive fuel 0 none c).bind after

/-! ### Nodes -/

/-- Matches a node at a cursor so that what comes after succeeds. -/
def Node.run (text : Array Char) : Node → Cursor → Continuation → Option Cursor
  | .empty, c, after => after c
  | .char test, c, after =>
    match text[c.position]? with
    | some x => if test.accepts x then after (c.moveTo (c.position + 1)) else none
    | none => none
  | .anchor place, c, after => if place.holds text c.position then after c else none
  | .sequence first second, c, after =>
    first.run text c fun d => second.run text d after
  | .choice first second, c, after =>
    (first.run text c after).orElse fun _ => second.run text c after
  | .group index body, c, after =>
    body.run text (c.openGroup index) fun d => after (d.closeGroup index)
  | .atomic body, c, after => (body.run text c some).bind after
  | .repetition greed least greatest body, c, after =>
    Loop.run ⟨least, greatest, body.run text⟩ greed text.size c after
  | .ahead true body, c, after =>
    match body.run text c some with
    | some d => after (d.moveTo c.position)
    | none => none
  | .ahead false body, c, after =>
    match body.run text c some with
    | some _ => none
    | none => after c
  | .behind width true body, c, after =>
    if c.position < width.least then none
    else match body.run text (c.moveTo (c.position - width.least)) some with
      | some d => after (d.moveTo c.position)
      | none => none
  | .behind width false body, c, after =>
    if c.position < width.least then after c
    else match body.run text (c.moveTo (c.position - width.least)) some with
      | some _ => none
      | none => after c
  | .reference index fold _, c, after =>
    match c.group? index with
    | none => none
    | some (first, last) =>
      let count := last - first
      if repeatsAt text fold first c.position count then after (c.moveTo (c.position + count))
      else none
  | .conditional index yes no, c, after =>
    if (c.group? index).isSome then yes.run text c after else no.run text c after

/-- Whether a node matches somewhere in a text. -/
def Node.occursIn (node : Node) (text : String) : Bool :=
  let cs := text.toList.toArray
  (List.range (cs.size + 1)).any fun start => (node.run cs ⟨start, [], []⟩ some).isSome

/-- Whether a pattern is found in a text, letter case aside. -/
def found? (pattern text : String) (characters : Text.CharacterNames := .ascii) :
    Except Fault Bool := do
  return (← parse pattern characters).occursIn text

end DocView.Pattern
