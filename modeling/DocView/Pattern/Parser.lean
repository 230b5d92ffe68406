import DocView.Pattern.Syntax
import DocView.Text.CharacterName
import DocView.Text.Identifier
import DocView.Text.Numeral

/-!
# Reading regular expressions

A pattern is first cut into tokens: a character, or a backslash with the character after it. A
backslash at the very end is no token, and reaching it is a fault.

The reader goes through the tokens once. It keeps the flags in force, the groups that have been
opened, and the width of those that are closed, since only a closed group can be referred to.
Flags for the whole pattern may stand at its start only. Characters may be given by their names,
which are looked up in a table that the reader is given.

A repeat count of `2 ^ 32 - 1` or more is a fault of its own kind, found where the count stands.
All other faults are alike.

## Fuel

Every call of the reader that is not at the end of an alternative takes a token, so a small
multiple of their number is enough fuel.

## Main definitions

* `Pattern.Fault`
* `Pattern.parse`
-/

namespace DocView.Pattern

/-- What is wrong with a pattern. -/
inductive Fault where
  | malformed
  | repeatCountTooLarge
deriving DecidableEq, Repr

/-! ### Tokens -/

/-- A piece of a pattern. -/
inductive Token where
  | plain (c : Char)
  | escape (c : Char)
  | dangling
deriving DecidableEq, Repr

/-- The tokens of a pattern. -/
def tokens : List Char → List Token
  | [] => []
  | ['\\'] => [.dangling]
  | '\\' :: c :: rest => .escape c :: tokens rest
  | c :: rest => .plain c :: tokens rest

/-- The flags in force at a place. -/
structure Flags where
  ignoreCase : Bool
  multiline : Bool
  dotAll : Bool
  verbose : Bool
  ascii : Bool
deriving DecidableEq, Repr

/-- How case is treated under flags. -/
def Flags.fold (f : Flags) : Fold :=
  if f.ignoreCase then (if f.ascii then .ascii else .full) else .exact

/-- The state of the reader. `widths` holds the width of every group from the first on, `none`
while the group is open. `lookingBehind` is the number of groups, the whole pattern included, at
the start of the outermost part that looks behind. -/
structure State where
  rest : List Token
  widths : List (Option Width)
  names : List (String × Nat)
  lookingBehind : Option Nat
  tested : List Nat
  flags : Flags
  askedUnicode : Bool
  askedAscii : Bool
  template : Bool
  characters : Text.CharacterNames

/-- A step of the reader. -/
abbrev Reader := StateT State (Except Fault)

/-- The fault of a pattern that is not well formed. -/
def malformed {α : Type} : Reader α := throw .malformed

/-- The next token, which is left in place. -/
def peek : Reader (Option Token) := do return (← get).rest.head?

/-- Goes to a place in the tokens. A backslash at the end must not be reached. -/
def goTo (rest : List Token) : Reader Unit := do
  if rest.head? = some .dangling then malformed
  modify fun s => { s with rest := rest }

/-- Takes the next token. -/
def next : Reader (Option Token) := do
  match (← get).rest with
  | [] => return none
  | t :: rest =>
    goTo rest
    return some t

/-- Takes the next token if it is this character. -/
def accept (c : Char) : Reader Bool := do
  if (← peek) = some (.plain c) then
    let _ ← next
    return true
  else return false

/-- Takes this character or fails. -/
def expect (c : Char) : Reader Unit := do
  if !(← accept c) then malformed

/-- Takes at most so many characters that pass a test. -/
def takeUpTo (test : Char → Bool) : Nat → Reader (List Char)
  | 0 => return []
  | n + 1 => do
    match ← peek with
    | some (.plain c) =>
      if test c then
        let _ ← next
        return c :: (← takeUpTo test n)
      else return []
    | _ => return []

/-- Takes all characters that pass a test. -/
def takeAll (test : Char → Bool) : Reader (List Char) := do
  takeUpTo test (← get).rest.length

/-- The characters of a token as they stand in the pattern. -/
def Token.chars : Token → List Char
  | .plain c => [c]
  | .escape c => ['\\', c]
  | .dangling => ['\\']

/-- Takes everything up to a closing character, which is taken too. There has to be something. -/
def takeUntil (stop : Char) : Nat → List Char → Reader (List Char)
  | 0, _ => malformed
  | fuel + 1, acc => do
    match ← next with
    | none => malformed
    | some t =>
      if t = .plain stop then
        if acc.isEmpty then malformed else return acc
      else takeUntil stop fuel (acc ++ t.chars)

/-- A name or number in front of a closing character. -/
def label (stop : Char) : Reader (List Char) := do
  takeUntil stop ((← get).rest.length + 1) []

/-! ### Escapes -/

/-- Whether a character is a hexadecimal digit. -/
def isHexDigit (c : Char) : Bool :=
  c.isDigit || ('a' ≤ c && c ≤ 'f') || ('A' ≤ c && c ≤ 'F')

/-- Whether a character is an octal digit. -/
def isOctDigit (c : Char) : Bool := '0' ≤ c && c ≤ '7'

/-- The value of a digit of any base up to sixteen. -/
def digitValue (c : Char) : Nat :=
  if c.isDigit then c.toNat - 48 else if c.isLower then c.toNat - 87 else c.toNat - 55

/-- The value of digits in a base. -/
def valueIn (base : Nat) (cs : List Char) : Nat := cs.foldl (fun n c => base * n + digitValue c) 0

/-- A code given by exactly so many hexadecimal digits. -/
def hexCode (count : Nat) : Reader Nat := do
  let ds ← takeUpTo isHexDigit count
  if ds.length < count then malformed
  let code := valueIn 16 ds
  if 0x10FFFF < code then malformed
  return code

/-- The code of a character that is given by its name in braces. -/
def namedCode : Reader Nat := do
  expect '\x7b'
  let name ← label '\x7d'
  match (← get).characters (String.ofList name) with
  | some c => return c.toNat
  | none => malformed

/-- The code of an escape that stands for one character, other than by octal digits. The letters
that have no meaning as an escape are refused. -/
def characterEscape (c : Char) : Reader Nat :=
  if c = 'a' then return 7
  else if c = 'f' then return 12
  else if c = 'n' then return 10
  else if c = 'r' then return 13
  else if c = 't' then return 9
  else if c = 'v' then return 11
  else if c = 'x' then hexCode 2
  else if c = 'u' then hexCode 4
  else if c = 'U' then hexCode 8
  else if c = 'N' then namedCode
  else if c.isAlpha then malformed
  else return c.toNat

/-- The class that an escape names. -/
def classEscape? (c : Char) : Option Member :=
  if c = 'd' then some (.named .digit false)
  else if c = 'D' then some (.named .digit true)
  else if c = 's' then some (.named .space false)
  else if c = 'S' then some (.named .space true)
  else if c = 'w' then some (.named .word false)
  else if c = 'W' then some (.named .word true)
  else none

/-- A character given by octal digits, the first of which has been taken. -/
def octalCode (first : Char) : Reader Nat := do
  let code := valueIn 8 (first :: (← takeUpTo isOctDigit 2))
  if 0o377 < code then malformed
  return code

/-! ### Sets -/

/-- A member of a set that an escape stands for. -/
def memberEscape (c : Char) : Reader Member := do
  match classEscape? c with
  | some member => return member
  | none =>
    if c = 'b' then return .single 8
    else if isOctDigit c then return .single (← octalCode c)
    else if c.isDigit then malformed
    else return .single (← characterEscape c)

/-- A member of a set that starts with a token. -/
def memberOf : Token → Reader Member
  | .plain c => return .single c.toNat
  | .escape c => memberEscape c
  | .dangling => malformed

/-- The members of a set up to its closing bracket. A bracket right at the start is a member, and
so is a hyphen at either end. -/
def members : Nat → List Member → Reader (List Member)
  | 0, _ => malformed
  | fuel + 1, acc => do
    match ← next with
    | none => malformed
    | some t =>
      if t = .plain ']' && !acc.isEmpty then return acc
      let low ← memberOf t
      if !(← accept '-') then members fuel (acc ++ [low])
      else match ← next with
        | none => malformed
        | some u =>
          if u = .plain ']' then return acc ++ [low, .single '-'.toNat]
          match low, ← memberOf u with
          | .single a, .single b =>
            if b < a then malformed else members fuel (acc ++ [.range a b])
          | _, _ => malformed

/-- A set whose opening bracket has been taken. -/
def set (flags : Flags) : Reader Node := do
  let negated ← accept '^'
  let ms ← members ((← get).rest.length + 1) []
  match ms.eraseDups with
  | [.single code] => return .char (.literal flags.fold negated code)
  | ms => return .char (.set flags.fold flags.ascii negated ms)

/-! ### Groups and references -/

/-- Checks that a group may be referred to: it is closed, and not part of what is looked behind
for. -/
def closedWidth (index : Nat) : Reader Width := do
  let s ← get
  match s.widths[index - 1]? with
  | some (some width) =>
    match s.lookingBehind with
    | some count => if count ≤ index then malformed else return width
    | none => return width
  | _ => malformed

/-- A reference to a group. -/
def reference (flags : Flags) (index : Nat) : Reader Node := do
  return .reference index flags.fold (← closedWidth index)

/-- An escape outside of sets. A digit other than zero starts a reference, or a character if there
are three octal digits. -/
def escape (flags : Flags) (c : Char) : Reader Node := do
  let literal (code : Nat) : Node := .char (.literal flags.fold false code)
  match classEscape? c with
  | some member => return .char (.set flags.fold flags.ascii false [member])
  | none =>
    if c = 'A' then return .anchor .textStart
    else if c = 'Z' then return .anchor .textEnd
    else if c = 'b' then return .anchor (.wordEdge flags.ascii)
    else if c = 'B' then return .anchor (.noWordEdge flags.ascii)
    else if c = '0' then return literal (valueIn 8 (← takeUpTo isOctDigit 2))
    else if c.isDigit then
      match ← takeUpTo Char.isDigit 1 with
      | [d] =>
        let third ← if isOctDigit c && isOctDigit d then takeUpTo isOctDigit 1 else pure []
        match third with
        | [e] =>
          let code := valueIn 8 [c, d, e]
          if 0o377 < code then malformed
          return literal code
        | _ => reference flags (valueIn 10 [c, d])
      | _ => reference flags (valueIn 10 [c])
    else return literal (← characterEscape c)

/-- Opens a group, whose number is returned. A name can be given once. -/
def openGroup (name : Option String) : Reader Nat := do
  let s ← get
  let index := s.widths.length + 1
  if name.any fun n => (List.lookup n s.names).isSome then malformed
  modify fun s =>
    { s with
      widths := s.widths ++ [none]
      names := (name.map fun n => (n, index)).toList ++ s.names }
  return index

/-- Closes a group. -/
def closeGroup (index : Nat) (body : Node) : Reader Unit :=
  modify fun s => { s with widths := s.widths.set (index - 1) (some body.width) }

/-! ### Flags -/

/-- The letters of flags. -/
def isFlag (c : Char) : Bool := ['i', 'L', 'm', 's', 'x', 'a', 't', 'u'].contains c

/-- Takes flags up to a character that ends them, which is returned too. -/
def flagLetters (isStop : Char → Bool) : Nat → List Char → Reader (List Char × Char)
  | 0, _ => malformed
  | fuel + 1, acc => do
    match ← next with
    | some (.plain c) =>
      if isStop c then return (acc, c)
      else if isFlag c then flagLetters isStop fuel (acc ++ [c])
      else malformed
    | _ => malformed

/-- The flags with letters turned on and off. -/
def Flags.change (f : Flags) (on off : List Char) : Flags :=
  let value (letter : Char) (old : Bool) : Bool :=
    (old || on.contains letter) && !off.contains letter
  { ignoreCase := value 'i' f.ignoreCase
    multiline := value 'm' f.multiline
    dotAll := value 's' f.dotAll
    verbose := value 'x' f.verbose
    ascii := if on.contains 'a' then true else if on.contains 'u' then false else f.ascii }

/-- What a group of flags does. -/
inductive FlagEffect where
  | whole
  | scoped (flags : Flags)

/-- Reads a group of flags whose first character has been taken. Flags that end with the group
hold for the whole pattern; those that end with a colon hold inside the group. -/
def flagGroup (flags : Flags) (first : Char) : Reader FlagEffect := do
  let fuel := (← get).rest.length + 1
  let (on, stop) ←
    if first = '-' then pure ([], '-')
    else flagLetters (fun c => c = ')' || c = '-' || c = ':') fuel [first]
  if on.contains 'L' || (on.contains 'a' && on.contains 'u') then malformed
  if stop = ')' then
    modify fun s =>
      { s with
        flags := s.flags.change on []
        askedAscii := s.askedAscii || on.contains 'a'
        askedUnicode := s.askedUnicode || on.contains 'u'
        template := s.template || on.contains 't' }
    return .whole
  if on.contains 't' then malformed
  let off ←
    if stop = '-' then do
      let (letters, _) ← flagLetters (fun c => c = ':') fuel []
      pure letters
    else pure []
  if stop = '-' && off.isEmpty then malformed
  if off.any fun c => c = 'a' || c = 'u' || c = 'L' || c = 't' then malformed
  if on.any off.contains then malformed
  return .scoped (flags.change on off)

/-! ### Repetitions -/

/-- Repeat counts from here on are too large. -/
def countLimit : Nat := 4294967295

/-- A repeat count, `none` if there are no digits. -/
def count (ds : List Char) : Reader (Option Nat) :=
  if ds.isEmpty then return none
  else if Text.maxDigits < ds.length then malformed
  else
    let n := valueIn 10 ds
    if countLimit ≤ n then throw .repeatCountTooLarge else return some n

/-- The bounds of a repetition in braces whose opening brace has been taken; `none` if what
follows is not the rest of one. -/
def braces : Reader (Option (Nat × Option Nat)) := do
  let start := (← get).rest
  if (← peek) = some (.plain '\x7d') then return none
  let low ← takeAll Char.isDigit
  let high ← if ← accept ',' then takeAll Char.isDigit else pure low
  if !(← accept '\x7d') then
    goTo start
    return none
  let least ← count low
  let greatest ← count high
  match least, greatest with
  | some a, some b => if b < a then malformed else return some (a, some b)
  | a, b => return some (a.getD 0, b)

/-- What was read last, as far as a repetition asks about it. -/
inductive Last where
  | nothing
  | anchor
  | repetition
  | other (node : Node)

/-- How eager a repetition is whose bounds have been taken. -/
def eagerness : Reader Greed := do
  if ← accept '?' then return .lazy
  else if ← accept '+' then return .possessive
  else return .greedy

/-- The repetition of what was read last, whose bounds have been taken. -/
def repeated (least : Nat) (greatest : Option Nat) : Last → Reader Node
  | .other node => return .repetition (← eagerness) least greatest node
  | _ => malformed

/-! ### The whole pattern -/

/-- Skips a comment up to the end of the line. -/
def skipLine : Nat → Reader Unit
  | 0 => return
  | fuel + 1 => do
    match ← next with
    | none => return
    | some t => if t = .plain '\n' then return else skipLine fuel

/-- Skips a comment up to a closing parenthesis. -/
def skipComment : Nat → Reader Unit
  | 0 => malformed
  | fuel + 1 => do
    match ← next with
    | none => malformed
    | some t => if t = .plain ')' then return else skipComment fuel

/-- The node read so far followed by what was read last. -/
def Last.join (before : Node) : Last → Node
  | .nothing | .anchor | .repetition => before
  | .other node => .sequence before node

/-- Whether a character is skipped where blanks do not count. -/
def isSkipped (c : Char) : Bool := c == ' ' || (9 ≤ c.toNat && c.toNat ≤ 13)

/-- A group whose kind is known and whose inside is still to be read. One that has no inside is a
node already. -/
inductive Group where
  | node (node : Node)
  | capture (name : Option String)
  | inside (flags : Flags) (atomic : Bool)
  | look (positive ahead : Bool)
  | condition (index : Nat)

/-- What a group that starts with a question mark turns out to be. -/
inductive Opening where
  | skipped
  | flagged
  | group (group : Group)

/-- The group that a condition asks about: a name, or a number. -/
def conditionIndex (cs : List Char) : Reader Nat := do
  let s ← get
  if Text.isIdentifier cs then
    match List.lookup (String.ofList cs) s.names with
    | some index => return index
    | none => malformed
  else match Text.integer? (String.ofList cs) with
    | .ok n =>
      if n ≤ 0 || 2147483647 ≤ n then malformed
      modify fun s => { s with tested := n.toNat :: s.tested }
      return n.toNat
    | .error _ => malformed

/-- Checks that a group may be asked about in what is looked behind for. -/
def checkCondition (index : Nat) : Reader Unit := do
  if (← get).lookingBehind.isSome then
    let _ ← closedWidth index

/-- Reads what follows an opening parenthesis and a question mark. -/
def opening (flags : Flags) : Reader Opening := do
  let s ← get
  match ← next with
  | some (.plain 'P') =>
    if ← accept '<' then
      let name ← label '>'
      if Text.isIdentifier name then return .group (.capture (some (String.ofList name)))
      else malformed
    else if ← accept '=' then
      let name ← label ')'
      if !Text.isIdentifier name then malformed
      match List.lookup (String.ofList name) s.names with
      | some index => return .group (.node (← reference flags index))
      | none => malformed
    else malformed
  | some (.plain ':') => return .group (.inside flags false)
  | some (.plain '#') => do
    skipComment (s.rest.length + 1)
    return .skipped
  | some (.plain '=') => return .group (.look true true)
  | some (.plain '!') => return .group (.look false true)
  | some (.plain '<') =>
    if ← accept '=' then return .group (.look true false)
    else if ← accept '!' then return .group (.look false false)
    else malformed
  | some (.plain '(') => do
    let index ← conditionIndex (← label ')')
    checkCondition index
    return .group (.condition index)
  | some (.plain '>') => return .group (.inside flags true)
  | some (.plain c) =>
    if isFlag c || c = '-' then
      match ← flagGroup flags c with
      | .whole => return .flagged
      | .scoped flags => return .group (.inside flags false)
    else malformed
  | _ => malformed

mutual

/-- Reads alternatives. The flag says whether these are the alternatives of the whole pattern, at
whose start flags may stand. -/
def alternatives : Nat → Flags → Bool → Reader Node
  | 0, _, _ => malformed
  | fuel + 1, flags, top => do
    let first ← alternative fuel flags top .empty .nothing
    moreAlternatives fuel flags top first

/-- Reads the alternatives after the first. -/
def moreAlternatives : Nat → Flags → Bool → Node → Reader Node
  | 0, _, _, _ => malformed
  | fuel + 1, flags, top, first => do
    if ← accept '|' then
      let s ← get
      let flags := if top then s.flags else flags
      let second ← alternative fuel flags false .empty .nothing
      return .choice first (← moreAlternatives fuel flags top second)
    else return first

/-- Reads one alternative, of which `before` and `last` have been read. -/
def alternative : Nat → Flags → Bool → Node → Last → Reader Node
  | 0, _, _, _, _ => malformed
  | fuel + 1, flags, top, before, last => do
    let append (node : Node) : Reader Node :=
      alternative fuel flags top (last.join before) (.other node)
    let literal (c : Char) : Node := .char (.literal flags.fold false c.toNat)
    match ← peek with
    | none => return last.join before
    | some (.plain '|') => return last.join before
    | some (.plain ')') => return last.join before
    | some .dangling => malformed
    | some (.escape c) => do
      let _ ← next
      match ← escape flags c with
      | .anchor place =>
        alternative fuel flags top (.sequence (last.join before) (.anchor place)) .anchor
      | node => append node
    | some (.plain c) => do
      let _ ← next
      let again (least : Nat) (greatest : Option Nat) : Reader Node := do
        let node ← repeated least greatest last
        alternative fuel flags top (.sequence before node) .repetition
      if flags.verbose && isSkipped c then alternative fuel flags top before last
      else if flags.verbose && c = '#' then
        skipLine (← get).rest.length
        alternative fuel flags top before last
      else if c = '[' then append (← set flags)
      else if c = '.' then
        append (.char (if flags.dotAll then .any else .anyButLineBreak))
      else if c = '^' then
        let place : Anchor := if flags.multiline then .lineStart else .textStart
        alternative fuel flags top (.sequence (last.join before) (.anchor place)) .anchor
      else if c = '$' then
        let place : Anchor := if flags.multiline then .lineEnd else .beforeFinalBreak
        alternative fuel flags top (.sequence (last.join before) (.anchor place)) .anchor
      else if c = '?' then again 0 (some 1)
      else if c = '*' then again 0 none
      else if c = '+' then again 1 none
      else if c = '\x7b' then
        match ← braces with
        | none => append (literal c)
        | some (least, greatest) => again least greatest
      else if c = '(' then
        if ← accept '?' then
          match ← opening flags with
          | .skipped => alternative fuel flags top before last
          | .flagged =>
            match top, before, last with
            | true, .empty, .nothing => do
              let s ← get
              alternative fuel s.flags top .empty .nothing
            | _, _, _ => malformed
          | .group group => append (← grouped fuel flags group)
        else append (← grouped fuel flags (.capture none))
      else append (literal c)

/-- Reads the inside of a group and its end. -/
def grouped : Nat → Flags → Group → Reader Node
  | 0, _, _ => malformed
  | _ + 1, _, .node node => return node
  | fuel + 1, flags, .capture name => do
    let index ← openGroup name
    let body ← alternatives fuel flags false
    expect ')'
    closeGroup index body
    return .group index body
  | fuel + 1, _, .inside inner atomic => do
    let body ← alternatives fuel inner false
    expect ')'
    return if atomic then .atomic body else .sequence .empty body
  | fuel + 1, flags, .look positive true => do
    let body ← alternatives fuel flags false
    expect ')'
    return .ahead positive body
  | fuel + 1, flags, .look positive false => do
    let outer := (← get).lookingBehind
    if outer.isNone then
      modify fun s => { s with lookingBehind := some (s.widths.length + 1) }
    let body ← alternatives fuel flags false
    if outer.isNone then modify fun s => { s with lookingBehind := none }
    expect ')'
    return .behind body.width positive body
  | fuel + 1, flags, .condition index => do
    let yes ← alternative fuel flags false .empty .nothing
    let no ←
      if ← accept '|' then alternative fuel flags false .empty .nothing
      else pure Node.empty
    expect ')'
    return .conditional index yes no

end

/-- Reads a pattern in which case is ignored unless it says otherwise. -/
def parse (text : String) (characters : Text.CharacterNames := .ascii) : Except Fault Node := do
  let ts := tokens text.toList
  if ts.head? = some .dangling then throw .malformed
  let flags : Flags := ⟨true, false, false, false, false⟩
  let start : State := ⟨ts, [], [], none, [], flags, false, false, false, characters⟩
  let (node, s) ← (alternatives (8 * ts.length + 8) flags true).run start
  if s.askedAscii && s.askedUnicode then throw .malformed
  if !s.rest.isEmpty then throw .malformed
  if s.tested.any fun index => s.widths.length < index then throw .malformed
  if !node.looksBehindByFixedWidth then throw .malformed
  if s.template && node.repeats then throw .malformed
  return node

end DocView.Pattern
