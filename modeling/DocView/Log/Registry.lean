import DocView.Log.Layout
import DocView.Text.Split

/-!
# Loggers

Loggers form a tree by the points in their names, with one nameless logger above all. A logger
that nobody has touched has no level and no handlers; it is as if it were there.

A message is let through by the level of the nearest logger that has one. It then goes to the
handlers of its logger and of all above it - except that the logger of the package keeps its
messages and those of its descendants to itself.

The logger of the package is set up, with a handler for the console, the first time that any
logger is asked for.

## Main definitions

* `Log.Registry`, `Log.Action`
* `Log.Registry.effective`, `Log.Registry.emit`
* `Log.setUp`, `Log.obtain`, `Log.setLevel`, `Log.enter`, `Log.leave`, `Log.log`
-/

namespace DocView.Log

/-- Where the lines of a handler go. -/
inductive Sink where
  | console
  | file (name : String)
deriving DecidableEq, Repr

/-- Writes records in a layout. -/
structure Handler where
  sink : Sink
  layout : Layout
deriving DecidableEq, Repr

/-- The level of a logger, zero if it has none, and its handlers. -/
structure Logger where
  level : Int
  handlers : List Handler
deriving DecidableEq, Repr

/-- All loggers that have been touched, and what has been written. -/
structure Registry where
  loggers : List (String × Logger)
  /-- Whether the logger of the package has been set up. -/
  isReady : Bool
  console : String
  files : List (String × String)
deriving DecidableEq, Repr

/-- The name of the logger of the package. -/
def packageName : String := "docshape"

/-- The name of the logger above all others. -/
def topName : String := "root"

/-- The logger's own name for a name that was asked for; the empty name is the one on top. -/
def canonicalName (name : String) : String := if name = "" then topName else name

/-- All prefixes of a name that end before one of its points, the longest first. -/
def ancestors (name : String) : List String :=
  let parts := Text.parts '.' name
  ((List.range parts.length).drop 1).reverse.map fun n => ".".intercalate (parts.take n)

/-- A logger and all above it, the nearest first. -/
def lineage (name : String) : List String :=
  if name = topName then [topName]
  else name :: (ancestors name).filter (· != "") ++ [topName]

namespace Registry

/-- The registry in which no logger has been touched. -/
def fresh : Registry := ⟨[], false, "", []⟩

/-- The logger of a name. -/
def logger (r : Registry) (name : String) : Logger :=
  (List.lookup name r.loggers).getD ⟨if name = topName then warning else 0, []⟩

/-- The entries of the loggers after one of them has been put in its place. -/
def putEntry : List (String × Logger) → String → Logger → List (String × Logger)
  | [], name, l => [(name, l)]
  | (n, old) :: rest, name, l =>
    if n = name then (n, l) :: rest else (n, old) :: putEntry rest name l

/-- The registry with a logger replaced. -/
def put (r : Registry) (name : String) (l : Logger) : Registry :=
  { r with loggers := putEntry r.loggers name l }

/-- The level of the nearest logger that has one. -/
def effective (r : Registry) (name : String) : Int :=
  (((lineage name).map fun n => (r.logger n).level).find? (· != 0)).getD 0

/-- The names of a list up to and including the first one that is `last`. -/
def upTo (last : String) : List String → List String
  | [] => []
  | name :: rest => if name = last then [name] else name :: upTo last rest

/-- The loggers whose handlers see the messages of a logger. -/
def audience (name : String) : List String := upTo packageName (lineage name)

/-- Adds text to the end of a file. -/
def appendFile : List (String × String) → String → String → List (String × String)
  | [], name, text => [(name, text)]
  | (n, old) :: rest, name, text =>
    if n = name then (n, old ++ text) :: rest else (n, old) :: appendFile rest name text

/-- The registry after a handler has written a record. -/
def handle (record : Record) (r : Registry) (h : Handler) : Registry :=
  match h.layout.write? record with
  | none => r
  | some line =>
    match h.sink with
    | .console => { r with console := r.console ++ line ++ "\n" }
    | .file name => { r with files := appendFile r.files name (line ++ "\n") }

/-- Whether a logger lets messages of a level through. -/
def lets (r : Registry) (name : String) (level : Int) : Bool :=
  0 < level && r.effective name ≤ level

/-- The registry after a message. -/
def emit (r : Registry) (record : Record) : Registry :=
  if r.lets record.logger record.level then
    ((audience record.logger).flatMap fun n => (r.logger n).handlers).foldl (handle record) r
  else r

end Registry

/-! ### Operations -/

/-- Something done to the loggers that may fail. -/
abbrev Action := ExceptT Error (StateM Registry)

/-- Runs an action. -/
def Action.apply {α : Type} (action : Action α) (r : Registry) : Result α × Registry :=
  StateT.run (ExceptT.run action) r

/-- Fails or succeeds without touching the loggers. -/
def Action.ofResult {α : Type} (result : Result α) : Action α := fun r => (result, r)

/-- Changes a logger. -/
def change (name : String) (f : Logger → Logger) : Action Unit :=
  modify fun r => r.put name (f (r.logger name))

/-- How a logger is to be set up. All parts but the file are as they were given. -/
structure Setup where
  level : Value
  layout : Value
  file : Option String

/-- The setup of a logger of which nothing is asked. -/
def Setup.standard : Setup := ⟨.str "INFO", .null, none⟩

/-- Sets a logger up: its level, and new handlers in place of the old ones. Answers its name. -/
def setUp (name : String) (setup : Setup) : Action String := do
  let name := canonicalName name
  let level ← Action.ofResult (levelOfValue setup.level)
  change name fun _ => ⟨level, []⟩
  let layout ← Action.ofResult (Layout.ofValue setup.layout)
  change name fun l => { l with handlers := [⟨.console, layout⟩] }
  if let some file := setup.file then
    modify fun r => { r with files := Registry.appendFile r.files file "" }
    change name fun l => { l with handlers := l.handlers ++ [⟨.file file, layout⟩] }
  if name = packageName then modify fun r => { r with isReady := true }
  return name

/-- Asks for a logger. Answers its name. -/
def obtain (name : String) : Action String := do
  let r ← getThe Registry
  if !r.isReady then
    let _ ← setUp packageName .standard
  return canonicalName name

/-- Sets the level of a logger. -/
def setLevel (name : String) (level : Value) : Action Unit := do
  let name ← obtain name
  let level ← Action.ofResult (levelOfValue level)
  change name fun l => { l with level := level }

/-- A logger whose level has been changed for a while, with the level that it had. -/
structure Interlude where
  name : String
  level : Int
deriving DecidableEq, Repr

/-- Changes the level of a logger for a while. -/
def enter (name : String) (level : Value) : Action Interlude := do
  let name ← obtain name
  let level ← Action.ofResult (levelOfValue level)
  let r ← getThe Registry
  change name fun l => { l with level := level }
  return ⟨name, (r.logger name).level⟩

/-- Puts the level back. -/
def leave (i : Interlude) : Action Unit := change i.name fun l => { l with level := i.level }

/-- The level of a message, which has to be an integer. -/
def messageLevel : Value → Result Int
  | .int n => .ok n
  | .bool b => .ok (if b then 1 else 0)
  | _ => .error (.badArgument "level must be an integer")

/-- Logs a message at a time. -/
def log (name : String) (level : Value) (message time : String) : Action Unit := do
  let name ← obtain name
  let level ← Action.ofResult (messageLevel level)
  modify fun r => r.emit ⟨time, name, level, message⟩

end DocView.Log
