import DocView.Error
import DocView.Text.Case
import DocView.Text.Occurrence
import DocView.Text.Split

/-!
# Command lines

A program takes options from the words of its command line. An option is named in full or by the
start of its name if only one option has that start; its argument is the next word, or follows an
equals sign. A word that looks like a negative number is an argument and no option, and after two
dashes no word is an option.

All words are told apart before any of them takes effect: an ambiguous one is refused whatever
stands before it. If an option comes twice, the last one counts.

## Main definitions

* `CommandLine.Switch`, `CommandLine.Word`
* `CommandLine.classify` - what each word is
* `CommandLine.parse` - what the words ask for
* `CommandLine.usage`, `CommandLine.help`
-/

namespace DocView.CommandLine

/-- What an option takes, and what it does if it takes nothing. -/
inductive Takes where
  | help
  | nothing
  | text
  | integer
  | oneOf (choices : List String)
deriving DecidableEq, Repr

/-- An option of a program. -/
structure Switch where
  names : List String
  takes : Takes
  summary : String
deriving DecidableEq, Repr

namespace Switch

/-- All names of an option in one. -/
def label (s : Switch) : String := "/".intercalate s.names

/-- The name that a setting is known by: the last one. -/
def key (s : Switch) : String := s.names.getLast?.getD ""

/-- Whether the option is followed by an argument. -/
def takesArgument (s : Switch) : Bool :=
  match s.takes with
  | .help | .nothing => false
  | _ => true

end Switch

/-- Why a command line is refused. -/
inductive Fault where
  | ambiguous (word : String) (matched : List String)
  | unrecognized (words : List String)
  | expectedArgument (label : String)
  | ignoredArgument (label argument : String)
  | notInteger (label argument : String)
  | notChoice (label argument : String) (choices : List String)
deriving DecidableEq, Repr

namespace Fault

/-- The wording of a fault that concerns an option. -/
def about (label text : String) : String := "argument " ++ label ++ ": " ++ text

/-- The wording of a fault. -/
def message : Fault → String
  | .ambiguous word matched =>
    "ambiguous option: " ++ word ++ " could match " ++ ", ".intercalate matched
  | .unrecognized words => "unrecognized arguments: " ++ " ".intercalate words
  | .expectedArgument label => about label "expected one argument"
  | .ignoredArgument label argument =>
    about label ("ignored explicit argument " ++ Text.quoted argument)
  | .notInteger label argument => about label ("invalid int value: " ++ Text.quoted argument)
  | .notChoice label argument choices =>
    about label ("invalid choice: " ++ Text.quoted argument ++ " (choose from "
      ++ ", ".intercalate (choices.map Text.quoted) ++ ")")

end Fault

/-! ### Words -/

/-- What follows the name of an option in its word. -/
inductive Attached where
  | nothing
  /-- Characters right behind a name of one letter. -/
  | letters (s : String)
  /-- An argument behind an equals sign. -/
  | argument (s : String)
deriving DecidableEq, Repr

/-- A word of a command line. -/
inductive Word where
  | plain (s : String)
  | unknown (s : String)
  /-- An option under one of its names. -/
  | option (switch : Switch) (name : String) (attached : Attached)
deriving DecidableEq, Repr

/-- All options with each of their names. -/
def named (switches : List Switch) : List (String × Switch) :=
  switches.flatMap fun s => s.names.map fun name => (name, s)

/-- The option of a name. -/
def find? (switches : List Switch) (name : String) : Option Switch :=
  List.lookup name (named switches)

/-- A word cut at its first equals sign. -/
def cut? (word : String) : Option (String × String) :=
  let cs := word.toList
  match cs.dropWhile (· != '=') with
  | _ :: rest => some (String.ofList (cs.takeWhile (· != '=')), String.ofList rest)
  | [] => none

/-- The options that a word may stand for: those whose name it starts, or the one whose single
letter it starts with. -/
def candidates (switches : List Switch) (word : String) : List Word :=
  match word.toList with
  | '-' :: '-' :: _ =>
    let (start, attached) := match cut? word with
      | some (start, argument) => (start, Attached.argument argument)
      | none => (word, Attached.nothing)
    ((named switches).filter fun entry => Text.startsWith entry.1 start).map fun (name, s) =>
      .option s name attached
  | '-' :: letter :: rest =>
    let short := String.ofList ['-', letter]
    (named switches).filterMap fun (name, s) =>
      if name = short then some (.option s name (.letters (String.ofList rest)))
      else if Text.startsWith name word then some (.option s name .nothing)
      else none
  | _ => []

/-- Whether digits, or digits around a point with some after it, make up all characters. -/
def isUnsigned (cs : List Char) : Bool :=
  let rest := cs.dropWhile Text.isDigit
  match rest with
  | [] => !cs.isEmpty
  | '.' :: fraction => !fraction.isEmpty && fraction.all Text.isDigit
  | _ => false

/-- Whether a word looks like a negative number. -/
def isNegativeNumber (word : String) : Bool :=
  match word.toList with
  | '-' :: rest => isUnsigned (if rest.getLast? = some '\n' then rest.dropLast else rest)
  | _ => false

/-- The name of an option in a word. -/
def Word.name : Word → String
  | .plain s | .unknown s => s
  | .option _ name _ => name

/-- What a word that is no full name may be. -/
def guess (switches : List Switch) (word : String) : Except Fault Word :=
  match candidates switches word with
  | [w] => .ok w
  | [] =>
    if isNegativeNumber word || word.toList.contains ' ' then .ok (.plain word)
    else .ok (.unknown word)
  | ws => .error (.ambiguous word (ws.map Word.name))

/-- What a word is. -/
def classifyWord (switches : List Switch) (word : String) : Except Fault Word :=
  if !Text.startsWith word "-" || word = "-" then .ok (.plain word)
  else match find? switches word with
    | some s => .ok (.option s word .nothing)
    | none =>
      match cut? word with
      | none => guess switches word
      | some (name, argument) =>
        match find? switches name with
        | some s => .ok (.option s name (.argument argument))
        | none => guess switches word

/-- What each word is. The two dashes that end the options stay as a word of their own, which is
no argument. -/
def classify (switches : List Switch) : List String → Except Fault (List Word)
  | [] => .ok []
  | "--" :: rest => .ok (.unknown "--" :: rest.map .plain)
  | word :: rest => do
    let first ← classifyWord switches word
    .ok (first :: (← classify switches rest))

/-! ### Settings -/

/-- What a command line asks for. -/
inductive Request where
  | help
  | settings (given : List (String × Value))
deriving Repr

/-- The value of an argument. -/
def Switch.read (s : Switch) (argument : String) : Except Fault Value :=
  match s.takes with
  | .integer =>
    match Text.integer? argument with
    | .ok n => .ok (.int n)
    | .error _ => .error (.notInteger s.label argument)
  | .oneOf choices =>
    if choices.contains argument then .ok (.str argument)
    else .error (.notChoice s.label argument choices)
  | _ => .ok (.str argument)

/-- The options that letters behind an option without argument stand for, and the letters that
are left because they stand for none. -/
def ofLetters (switches : List Switch) (s : Switch) : List Char →
    Except Fault (List Switch × List String)
  | [] => .ok ([], [])
  | c :: rest =>
    if c = '-' then .error (.ignoredArgument s.label (String.ofList (c :: rest)))
    else match find? switches (String.ofList ['-', c]) with
      | none => .ok ([], [String.ofList ('-' :: c :: rest)])
      | some next =>
        match rest with
        | '=' :: argument => .error (.ignoredArgument next.label (String.ofList argument))
        | _ => do
          let (others, left) ← ofLetters switches next rest
          .ok (next :: others, left)

/-- The options that one without argument stands for together with what is attached to it, and
what is left of it. -/
def flags (switches : List Switch) (s : Switch) : Attached →
    Except Fault (List Switch × List String)
  | .nothing => .ok ([s], [])
  | .argument text => .error (.ignoredArgument s.label text)
  | .letters text => do
    let (others, left) ← ofLetters switches s text.toList
    .ok (s :: others, left)

/-- Puts words into effect one after the other. `given` are the settings so far, `extra` the words
that nobody asked for. -/
def apply (switches : List Switch) (given : List (String × Value)) (extra : List String) :
    List Word → Except Fault Request
  | [] => if extra.isEmpty then .ok (.settings given) else .error (.unrecognized extra)
  | .plain s :: rest | .unknown s :: rest => apply switches given (extra ++ [s]) rest
  | .option s _ attached :: rest =>
    if s.takesArgument then
      match attached, rest with
      | .letters text, rest | .argument text, rest => do
        apply switches (given ++ [(s.key, ← s.read text)]) extra rest
      | .nothing, .plain text :: rest => do
        apply switches (given ++ [(s.key, ← s.read text)]) extra rest
      | .nothing, _ => .error (.expectedArgument s.label)
    else do
      let (on, left) ← flags switches s attached
      if on.any fun s => s.takes == .help then .ok .help
      else apply switches (given ++ on.map fun s => (s.key, .bool true)) (extra ++ left) rest

/-- What the words of a command line ask for. -/
def parse (switches : List Switch) (words : List String) : Except Fault Request := do
  apply switches [] [] (← classify switches words)

/-- The setting of an option: the last one that was given. -/
def setting? (given : List (String × Value)) (key : String) : Option Value :=
  List.lookup key given.reverse

/-! ### Explanations -/

/-- The width of explanations. -/
def width : Nat := 78

/-- The column at which the explanations of options start. -/
def column : Nat := 24

/-- So many blanks. -/
def blanks (n : Nat) : String := String.ofList (List.replicate n ' ')

/-- The word that stands for the argument of an option. -/
def Switch.placeholder (s : Switch) : String :=
  match s.takes with
  | .help | .nothing => ""
  | .oneOf choices => " \x7b" ++ ",".intercalate choices ++ "\x7d"
  | _ =>
    let plain := s.key.toList.dropWhile (· == '-')
    " " ++ Text.upper (String.ofList (plain.map fun c => if c = '-' then '_' else c))

/-- Parts laid out in lines of at most `width`; the first line has used some already. -/
def wrap (indent : Nat) (used : Nat) (line : List String) : List String → List (List String)
  | [] => if line.isEmpty then [] else [line]
  | part :: rest =>
    if width < used + 1 + part.length ∧ !line.isEmpty then
      line :: wrap indent (indent + part.length) [part] rest
    else wrap indent (used + 1 + part.length) (line ++ [part]) rest

/-- The line that shows all options of a program, broken where it is too long. -/
def usage (program : String) (switches : List Switch) : String :=
  let start := "usage: "
  let indent := start.length + program.length + 1
  let parts := switches.map fun s => "[" ++ (s.names.headD "") ++ s.placeholder ++ "]"
  let lines := wrap indent (start.length - 1) [] (program :: parts)
  start ++ ("\n" ++ blanks indent).intercalate (lines.map fun line => " ".intercalate line) ++ "\n"

/-- The explanation of an option. -/
def Switch.explanation (s : Switch) : String :=
  let title := ", ".intercalate (s.names.map fun name => name ++ s.placeholder)
  let gap := if column < title.length + 4 then "\n" ++ blanks column
    else blanks (column - 2 - title.length)
  "  " ++ title ++ gap ++ s.summary ++ "\n"

/-- The explanation of a program and of all its options. -/
def help (program summary : String) (switches : List Switch) : String :=
  usage program switches ++ "\n" ++ summary ++ "\n\noptions:\n"
    ++ String.join (switches.map Switch.explanation)

end DocView.CommandLine
