import DocView.Error

/-!
# Tokens of configuration files

A configuration file is YAML: nesting is shown by indentation or by brackets, comments start with
a number sign, and texts may be quoted. Anchors, tags, directives and block scalars are not part
of the format here; the characters that start them are refused.

Whether a text is the key of a mapping is known only when a colon follows it, and by then it has
been read. So a text that could be a key is remembered, and the tokens that open the mapping and
the key are inserted before it afterwards. A token is handed out only when nothing can be inserted
before it any more: a key has to be followed by its colon on the same line and within 1024
characters.

## Main definitions

* `Yaml.Token`
* `Yaml.Lexer`, `Yaml.Lex.peek`, `Yaml.Lex.next`
-/

namespace DocView.Yaml

/-- A piece of a configuration file. -/
inductive Token where
  | documentStart
  | documentEnd
  | streamEnd
  | blockSequenceStart
  | blockMappingStart
  | blockEnd
  | flowSequenceStart
  | flowSequenceEnd
  | flowMappingStart
  | flowMappingEnd
  | blockEntry
  | flowEntry
  | key
  | value
  | scalar (text : String) (plain : Bool)
deriving DecidableEq, Repr

/-- A place where a key may have started: the number of its token and its position. A required key
stands where a mapping that is open goes on. -/
structure PossibleKey where
  number : Nat
  required : Bool
  index : Nat
  line : Nat
  column : Int
deriving Repr

/-- The state of reading tokens. Columns and indentations count from zero, and an indentation of
minus one is that of no block at all. -/
structure Lexer where
  rest : List Char
  index : Nat
  line : Nat
  column : Int
  indent : Int
  outer : List Int
  depth : Nat
  mayStartKey : Bool
  keys : List (Nat × PossibleKey)
  queue : List Token
  taken : Nat
  isDone : Bool

/-- The start of a text. -/
def Lexer.start (cs : List Char) : Lexer := ⟨cs, 0, 0, 0, -1, [], 0, true, [], [], 0, false⟩

/-- A step of reading tokens. -/
abbrev Lex := StateT Lexer (Except Error)

namespace Lex

/-- The failure of a text that has no tokens. -/
def refuse {α : Type} : Lex α := throw .yamlScan

/-! ### Characters -/

/-- Whether a character breaks lines. -/
def isBreak (c : Char) : Bool :=
  c == '\n' || c.toNat == 0x85 || c.toNat == 0x2028 || c.toNat == 0x2029

/-- Whether the text ends here or goes on with a blank or a break. -/
def endsWord : Option Char → Bool
  | none => true
  | some c => c == ' ' || c == '\t' || isBreak c

/-- The character so many places ahead. -/
def ahead (n : Nat) : Lex (Option Char) := do return (← get).rest[n]?

/-- The state after one character. -/
def Lexer.step (s : Lexer) : Lexer :=
  match s.rest with
  | [] => s
  | c :: rest =>
    if isBreak c then { s with rest := rest, index := s.index + 1, line := s.line + 1, column := 0 }
    else
      { s with
        rest := rest
        index := s.index + 1
        column := if c.toNat = 0xFEFF then s.column else s.column + 1 }

/-- Goes so many characters forward. -/
def forward : Nat → Lex Unit
  | 0 => return
  | n + 1 => do
    modify Lexer.step
    forward n

/-- Takes all characters up to one that fails a test. -/
def takeWhile (test : Char → Bool) : Lex (List Char) := do
  let taken := (← get).rest.takeWhile test
  forward taken.length
  return taken

/-- A line break as it counts in a text: most are the same as a line feed. -/
def breakText (c : Char) : List Char :=
  if c.toNat = 0x2028 ∨ c.toNat = 0x2029 then [c] else ['\n']

/-- Takes a line break, if one is here. -/
def takeBreak : Lex (List Char) := do
  match ← ahead 0 with
  | some c =>
    if isBreak c then
      forward 1
      return breakText c
    else return []
  | none => return []

/-- Whether three of a character stand here and end a word: a mark between documents. -/
def atMark (c : Char) : Lex Bool := do
  let rest := (← get).rest
  return rest.take 3 == [c, c, c] && endsWord rest[3]?

/-- Whether a mark between documents stands here. -/
def atAnyMark : Lex Bool := do
  if ← atMark '-' then return true else atMark '.'

/-- Skips blanks, comments and line breaks. A new line outside of brackets may start with a key. -/
def skipBlanks : Nat → Lex Unit
  | 0 => return
  | fuel + 1 => do
    let _ ← takeWhile (· == ' ')
    if (← ahead 0) = some '#' then
      let _ ← takeWhile fun c => !isBreak c
    let broke ← takeBreak
    if broke.isEmpty then return
    modify fun s => { s with mayStartKey := s.mayStartKey || s.depth == 0 }
    skipBlanks fuel

/-! ### Possible keys -/

/-- Forgets the possible key of the present depth; one that is required must not be lost. -/
def dropKey : Lex Unit := do
  let s ← get
  match List.lookup s.depth s.keys with
  | some key =>
    if key.required then refuse
    set { s with keys := s.keys.filter fun k => k.1 != s.depth }
  | none => return

/-- Remembers that the next token may be a key. -/
def saveKey : Lex Unit := do
  let s ← get
  if s.mayStartKey then
    dropKey
    let required := s.depth == 0 && s.indent == s.column
    let key : PossibleKey := ⟨s.taken + s.queue.length, required, s.index, s.line, s.column⟩
    modify fun s => { s with keys := (s.depth, key) :: s.keys }

/-- Whether it is too late for a key to be followed by its colon. -/
def isStale (s : Lexer) (key : PossibleKey) : Bool :=
  key.line != s.line || 1024 < s.index - key.index

/-- Forgets the keys that it is too late for. -/
def dropStale : Lex Unit := do
  let s ← get
  if s.keys.any fun k => isStale s k.2 && k.2.required then refuse
  set { s with keys := s.keys.filter fun k => !isStale s k.2 }

/-! ### The queue -/

/-- Adds a token at the end. -/
def push (t : Token) : Lex Unit := modify fun s => { s with queue := s.queue ++ [t] }

/-- Inserts a token before the one of a number. -/
def insert (t : Token) (number : Nat) : Lex Unit :=
  modify fun s =>
    let (before, after) := s.queue.splitAt (number - s.taken)
    { s with queue := before ++ t :: after }

/-- Sets whether a key may start here. -/
def setStart (mayStart : Bool) : Lex Unit := modify fun s => { s with mayStartKey := mayStart }

/-- Opens a block at a column if it is indented further. Answers whether it is. -/
def openBlock (column : Int) : Lex Bool := do
  let s ← get
  if s.indent < column then
    set { s with indent := column, outer := s.indent :: s.outer }
    return true
  else return false

/-- Closes the blocks that are indented further than a column. -/
def closeBlocks (column : Int) : Nat → Lex Unit
  | 0 => return
  | fuel + 1 => do
    let s ← get
    if s.depth = 0 ∧ column < s.indent then
      set { s with indent := s.outer.headD (-1), outer := s.outer.tail }
      push .blockEnd
      closeBlocks column fuel

/-- Closes blocks as far as a column asks for it. -/
def unwind (column : Int) : Lex Unit := do closeBlocks column ((← get).outer.length + 1)

/-! ### Plain texts -/

/-- The length of the stretch of a plain text that starts here: up to a blank, or a colon that ends
a word; inside of brackets also up to a comma, a bracket or a question mark. -/
def plainLength (inFlow : Bool) : List Char → Nat
  | [] => 0
  | c :: rest =>
    let next := rest.head?
    if endsWord (some c) then 0
    else if c = ':'
      && (endsWord next || (inFlow && next.any fun d => ",[]\x7b\x7d".toList.contains d))
    then 0
    else if inFlow && ",?[]\x7b\x7d".toList.contains c then 0
    else plainLength inFlow rest + 1

/-- Takes breaks and the spaces among them; `none` if a mark between documents comes first. -/
def breaksInPlain : Nat → List Char → Lex (Option (List Char))
  | 0, acc => return some acc
  | fuel + 1, acc => do
    match ← ahead 0 with
    | some c =>
      if c = ' ' then
        forward 1
        breaksInPlain fuel acc
      else if isBreak c then
        let b ← takeBreak
        if ← atAnyMark then return none else breaksInPlain fuel (acc ++ b)
      else return some acc
    | none => return some acc

/-- Takes the blanks inside of a plain text, folded: one break is a space, and of several the first
is left out. Empty if the text ends here. -/
def plainSpaces : Lex (List Char) := do
  let spaces ← takeWhile (· == ' ')
  let b ← takeBreak
  if b.isEmpty then return spaces
  setStart true
  if ← atAnyMark then return []
  match ← breaksInPlain ((← get).rest.length + 1) [] with
  | none => return []
  | some breaks =>
    if b != ['\n'] then return b ++ breaks
    else if breaks.isEmpty then return [' ']
    else return breaks

/-- Takes a plain text, of which a part has been taken together with the blanks after it. -/
def plainFrom : Nat → List Char → List Char → Lex (List Char)
  | 0, acc, _ => return acc
  | fuel + 1, acc, spaces => do
    let s ← get
    let inFlow := s.depth != 0
    let length := if s.rest.head? = some '#' then 0 else plainLength inFlow s.rest
    if length = 0 then return acc
    setStart false
    let part := s.rest.take length
    forward length
    let more ← plainSpaces
    let after ← get
    let acc := acc ++ spaces ++ part
    if more.isEmpty || after.rest.head? = some '#'
        || (!inFlow && after.column < after.indent + 1) then return acc
    plainFrom fuel acc more

/-- Whether a plain text may start here. -/
def startsPlain (inFlow : Bool) (c : Char) (next : Option Char) : Bool :=
  !(endsWord (some c) || "-?:,[]\x7b\x7d#&*!|>'\"%@".toList.contains c || c.toNat == 0x60)
    || (!endsWord next && (c == '-' || (!inFlow && (c == '?' || c == ':'))))

/-! ### Quoted texts -/

/-- Takes the breaks and blanks at the start of further lines of a quoted text. -/
def quotedBreaks : Nat → List Char → Lex (List Char)
  | 0, acc => return acc
  | fuel + 1, acc => do
    if ← atAnyMark then refuse
    let _ ← takeWhile fun c => c == ' ' || c == '\t'
    let b ← takeBreak
    if b.isEmpty then return acc else quotedBreaks fuel (acc ++ b)

/-- Takes the blanks inside of a quoted text, folded like those of a plain one. -/
def quotedSpaces : Lex (List Char) := do
  let spaces ← takeWhile fun c => c == ' ' || c == '\t'
  if (← ahead 0).isNone then refuse
  let b ← takeBreak
  if b.isEmpty then return spaces
  let breaks ← quotedBreaks ((← get).rest.length + 1) []
  if b != ['\n'] then return b ++ breaks
  else if breaks.isEmpty then return [' ']
  else return breaks

/-- The character that a letter stands for after a backslash. -/
def letterEscape? (c : Char) : Option Char :=
  (List.lookup c
    [('0', 0), ('a', 7), ('b', 8), ('t', 9), ('\t', 9), ('n', 10), ('v', 11), ('f', 12),
     ('r', 13), ('e', 27), (' ', 32), ('"', 34), ('/', 47), ('\\', 92), ('N', 0x85),
     ('_', 0xA0), ('L', 0x2028), ('P', 0x2029)]).map Char.ofNat

/-- The number of hexadecimal digits that a letter asks for after a backslash. -/
def codeLength? (c : Char) : Option Nat :=
  if c = 'x' then some 2 else if c = 'u' then some 4 else if c = 'U' then some 8 else none

/-- Whether a character is a hexadecimal digit. -/
def isHex (c : Char) : Bool := c.isDigit || ('a' ≤ c && c ≤ 'f') || ('A' ≤ c && c ≤ 'F')

/-- The value of a hexadecimal digit. -/
def hexValue (c : Char) : Nat :=
  if c.isDigit then c.toNat - 48 else if c.isLower then c.toNat - 87 else c.toNat - 55

/-- Takes what follows a backslash. -/
def takeEscape : Lex (List Char) := do
  match ← ahead 0 with
  | none => refuse
  | some c =>
    match letterEscape? c, codeLength? c with
    | some d, _ =>
      forward 1
      return [d]
    | none, some length =>
      forward 1
      let ds := (← get).rest.take length
      if ds.length < length || !ds.all isHex then refuse
      forward length
      return [Char.ofNat (ds.foldl (fun n d => 16 * n + hexValue d) 0)]
    | none, none =>
      if isBreak c then
        let _ ← takeBreak
        quotedBreaks ((← get).rest.length + 1) []
      else refuse

/-- Takes a quoted text up to its closing quote. -/
def quotedFrom (quote : Char) : Nat → List Char → Lex (List Char)
  | 0, _ => refuse
  | fuel + 1, acc => do
    let rest := (← get).rest
    match rest with
    | [] => refuse
    | c :: more =>
      if c = quote then
        if quote = '\'' ∧ more.head? = some '\'' then
          forward 2
          quotedFrom quote fuel (acc ++ ['\''])
        else
          forward 1
          return acc
      else if c = '\\' ∧ quote = '"' then
        forward 1
        quotedFrom quote fuel (acc ++ (← takeEscape))
      else if c = ' ' || c = '\t' || isBreak c then
        quotedFrom quote fuel (acc ++ (← quotedSpaces))
      else
        forward 1
        quotedFrom quote fuel (acc ++ [c])

/-! ### Tokens -/

/-- A bracket that opens. -/
def openBracket (t : Token) : Lex Unit := do
  saveKey
  modify fun s => { s with depth := s.depth + 1, mayStartKey := true }
  forward 1
  push t

/-- A bracket that closes. -/
def closeBracket (t : Token) : Lex Unit := do
  dropKey
  modify fun s => { s with depth := s.depth - 1, mayStartKey := false }
  forward 1
  push t

/-- A hyphen before an item of a sequence. -/
def entry : Lex Unit := do
  let s ← get
  if s.depth = 0 then
    if !s.mayStartKey then refuse
    if ← openBlock s.column then push .blockSequenceStart
  setStart true
  dropKey
  forward 1
  push .blockEntry

/-- A question mark before a key. -/
def explicitKey : Lex Unit := do
  let s ← get
  if s.depth = 0 then
    if !s.mayStartKey then refuse
    if ← openBlock s.column then push .blockMappingStart
  setStart (s.depth == 0)
  dropKey
  forward 1
  push .key

/-- A colon after a key. -/
def colon : Lex Unit := do
  let s ← get
  match List.lookup s.depth s.keys with
  | some key =>
    set { s with keys := s.keys.filter fun k => k.1 != s.depth }
    insert .key key.number
    if s.depth = 0 then
      if ← openBlock key.column then insert .blockMappingStart key.number
    setStart false
  | none =>
    if s.depth = 0 then
      if !s.mayStartKey then refuse
      if ← openBlock s.column then push .blockMappingStart
    setStart (s.depth == 0)
    dropKey
  forward 1
  push .value

/-- A mark between documents. -/
def mark (t : Token) : Lex Unit := do
  unwind (-1)
  dropKey
  setStart false
  forward 3
  push t

/-- A text. -/
def text (c : Char) : Lex Unit := do
  let fuel := (← get).rest.length + 1
  saveKey
  setStart false
  if c = '\'' ∨ c = '"' then
    forward 1
    let cs ← quotedFrom c fuel []
    push (.scalar (String.ofList cs) false)
  else
    let cs ← plainFrom fuel [] []
    push (.scalar (String.ofList cs) true)

/-- Reads tokens up to the next one that is certain to follow, at least one. -/
def fetch : Lex Unit := do
  skipBlanks ((← get).rest.length + 1)
  dropStale
  unwind (← get).column
  let s ← get
  let inFlow := s.depth != 0
  let next := s.rest[1]?
  match s.rest.head? with
  | none =>
    unwind (-1)
    dropKey
    modify fun s => { s with mayStartKey := false, keys := [], isDone := true }
    push .streamEnd
  | some c =>
    if s.column = 0 && (← atMark '-') then mark .documentStart
    else if s.column = 0 && (← atMark '.') then mark .documentEnd
    else if c = '[' then openBracket .flowSequenceStart
    else if c = '\x7b' then openBracket .flowMappingStart
    else if c = ']' then closeBracket .flowSequenceEnd
    else if c = '\x7d' then closeBracket .flowMappingEnd
    else if c = ',' then
      setStart true
      dropKey
      forward 1
      push .flowEntry
    else if c = '-' && endsWord next then entry
    else if c = '?' && (inFlow || endsWord next) then explicitKey
    else if c = ':' && (inFlow || endsWord next) then colon
    else if c = '\'' || c = '"' || startsPlain inFlow c next then text c
    else refuse

/-- Reads tokens until the first one can be handed out. -/
def fill : Nat → Lex Unit
  | 0 => return
  | fuel + 1 => do
    if (← get).isDone then return
    if (← get).queue.isEmpty then
      fetch
      fill fuel
    else
      dropStale
      let s ← get
      if s.keys.any fun k => k.2.number == s.taken then
        fetch
        fill fuel

/-- The next token, which stays. -/
def peek : Lex Token := do
  fill ((← get).rest.length + 3)
  return (← get).queue.headD .streamEnd

/-- Takes the next token. -/
def next : Lex Token := do
  let t ← peek
  modify fun s => { s with queue := s.queue.tail, taken := s.taken + 1 }
  return t

/-- Takes the next token if it is this one. -/
def accept (t : Token) : Lex Bool := do
  if (← peek) = t then
    let _ ← next
    return true
  else return false

end Lex

end DocView.Yaml
