import DocView.Table
import DocView.Yaml.Scalar
import DocView.Yaml.Token

/-!
# Trees of configuration files

A configuration file is one tree of texts, lists and mappings. What is missing where a value is
expected is the empty text. The keys of a mapping may be any values; where they have to be names,
those that are not are spelled as in JSON.

## Fuel

Every call of the reader takes a token or is followed by one that does, and a text has at most
three tokens for a character.

## Main definitions

* `Yaml.Node`, `Yaml.Node.ofText?`
* `Yaml.Node.value`
-/

namespace DocView.Yaml

/-- A tree. -/
inductive Node where
  | scalar (text : String) (plain : Bool)
  | sequence (items : List Node)
  | mapping (entries : List (Node × Node))
deriving Repr, Inhabited

namespace Node

/-- The node that stands for nothing. -/
def empty : Node := .scalar "" true

/-- The failure of tokens that form no tree. -/
def misplaced {α : Type} : Lex α := throw .yamlParse

/-! ### Reading -/

/-- Whether the next token is one of some. -/
def isNext (ts : List Token) : Lex Bool := do return ts.contains (← Lex.peek)

mutual

/-- Reads a node. Outside of brackets, blocks are allowed, and where a mapping goes on so is a
sequence that is not indented. -/
def read : Nat → Bool → Bool → Lex Node
  | 0, _, _ => misplaced
  | fuel + 1, block, flush => do
    match ← Lex.peek with
    | .blockEntry => if flush then return .sequence (← flushItems fuel) else misplaced
    | .scalar text plain =>
      let _ ← Lex.next
      return .scalar text plain
    | .flowSequenceStart =>
      let _ ← Lex.next
      return .sequence (← flowItems fuel true)
    | .flowMappingStart =>
      let _ ← Lex.next
      return .mapping (← flowEntries fuel true)
    | .blockSequenceStart =>
      if !block then misplaced
      let _ ← Lex.next
      return .sequence (← blockItems fuel)
    | .blockMappingStart =>
      if !block then misplaced
      let _ ← Lex.next
      return .mapping (← blockEntries fuel)
    | _ => misplaced

/-- Reads a node unless one of some tokens comes next, which stand for nothing. -/
def readUnless : Nat → List Token → Bool → Bool → Lex Node
  | 0, _, _, _ => misplaced
  | fuel + 1, ends, block, flush => do
    if ← isNext ends then return empty else read fuel block flush

/-- Reads the items of an indented sequence. -/
def blockItems : Nat → Lex (List Node)
  | 0 => misplaced
  | fuel + 1 => do
    if ← Lex.accept .blockEntry then
      let item ← readUnless fuel [.blockEntry, .blockEnd] true false
      return item :: (← blockItems fuel)
    else if ← Lex.accept .blockEnd then return []
    else misplaced

/-- Reads the items of a sequence that is not indented. -/
def flushItems : Nat → Lex (List Node)
  | 0 => misplaced
  | fuel + 1 => do
    if ← Lex.accept .blockEntry then
      let item ← readUnless fuel [.blockEntry, .key, .value, .blockEnd] true false
      return item :: (← flushItems fuel)
    else return []

/-- Reads the entries of an indented mapping. -/
def blockEntries : Nat → Lex (List (Node × Node))
  | 0 => misplaced
  | fuel + 1 => do
    let ends : List Token := [.key, .value, .blockEnd]
    if ← Lex.accept .key then
      let key ← readUnless fuel ends true true
      let value ← if ← Lex.accept .value then readUnless fuel ends true true else pure empty
      return (key, value) :: (← blockEntries fuel)
    else if ← Lex.accept .blockEnd then return []
    else misplaced

/-- Reads the items of a sequence in brackets. An item may be a mapping of one entry. -/
def flowItems : Nat → Bool → Lex (List Node)
  | 0, _ => misplaced
  | fuel + 1, first => do
    if ← Lex.accept .flowSequenceEnd then return []
    if !first then
      if !(← Lex.accept .flowEntry) then misplaced
    if ← Lex.accept .key then
      let key ← readUnless fuel [.value, .flowEntry, .flowSequenceEnd] false false
      let value ←
        if ← Lex.accept .value then readUnless fuel [.flowEntry, .flowSequenceEnd] false false
        else pure empty
      return .mapping [(key, value)] :: (← flowItems fuel false)
    else if ← Lex.accept .flowSequenceEnd then return []
    else
      let item ← read fuel false false
      return item :: (← flowItems fuel false)

/-- Reads the entries of a mapping in braces. An entry may be a key alone. -/
def flowEntries : Nat → Bool → Lex (List (Node × Node))
  | 0, _ => misplaced
  | fuel + 1, first => do
    if ← Lex.accept .flowMappingEnd then return []
    if !first then
      if !(← Lex.accept .flowEntry) then misplaced
    if ← Lex.accept .key then
      let key ← readUnless fuel [.value, .flowEntry, .flowMappingEnd] false false
      let value ←
        if ← Lex.accept .value then readUnless fuel [.flowEntry, .flowMappingEnd] false false
        else pure empty
      return (key, value) :: (← flowEntries fuel false)
    else if ← Lex.accept .flowMappingEnd then return []
    else
      let key ← read fuel false false
      return (key, empty) :: (← flowEntries fuel false)

end

/-- Skips marks at the end of documents. -/
def skipEnds : Nat → Lex Unit
  | 0 => return
  | fuel + 1 => do
    if ← Lex.accept .documentEnd then skipEnds fuel

/-- Reads the only document of a text; none at all if the text has no tokens. -/
def document (fuel : Nat) : Lex (Option Node) := do
  if (← Lex.peek) = .streamEnd then return none
  let marked ← Lex.accept .documentStart
  let node ←
    if marked && (← isNext [.documentStart, .documentEnd, .streamEnd]) then pure empty
    else read fuel true false
  skipEnds fuel
  if (← Lex.peek) = .streamEnd then return some node else misplaced

/-- Lines end in line feeds alone. -/
def unifyBreaks : List Char → List Char
  | '\r' :: '\n' :: rest => '\n' :: unifyBreaks rest
  | '\r' :: rest => '\n' :: unifyBreaks rest
  | c :: rest => c :: unifyBreaks rest
  | [] => []

/-- The tree of a text. -/
def ofText? (s : String) : Result (Option Node) :=
  let cs := unifyBreaks s.toList
  let cs := if cs.head?.any fun c => c.toNat = 0xFEFF then cs.drop 1 else cs
  (document (8 * cs.length + 16)).run' (Lexer.start cs)

/-! ### Values -/

mutual

/-- The value of a node. A mapping becomes an object; of the entries under one name the last
counts. -/
def value : Node → Result Value
  | .scalar text plain => if plain then scalarValue text else .ok (.str text)
  | .sequence items => do .ok (.array (← values items))
  | .mapping entries => do .ok (.record (Members.ofEntries (← members entries)))

/-- The values of nodes. -/
def values : List Node → Result (List Value)
  | [] => .ok []
  | node :: rest => do
    let v ← value node
    .ok (v :: (← values rest))

/-- The entries of a mapping with their keys spelled as names. -/
def members : List (Node × Node) → Result (List (String × Value))
  | [] => .ok []
  | (key, node) :: rest => do
    let name ← Table.keyText (← value key)
    let v ← value node
    .ok ((name, v) :: (← members rest))

end

/-- Whether all keys of a mapping are names. Other nodes have no keys. -/
def hasNames : Node → Bool
  | .mapping entries =>
    entries.all fun entry =>
      match entry.1.value with
      | .ok (.str _) => true
      | _ => false
  | _ => true

end Node

end DocView.Yaml
