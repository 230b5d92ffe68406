import DocView.Error
import DocView.Text.Case

/-!
# Levels of messages

How important a message is, as an integer. Some levels have names, a few of them two; a level is
given by a name in any case and shown by its first name, or by its number if it has none.

## Main definitions

* `Log.levelOfValue` - the level that a value names
* `Log.levelName` - the name under which a level is shown
-/

namespace DocView.Log

/-- The named levels. Of two names of one level the first is the one that is shown. -/
def namedLevels : List (String × Int) :=
  [("CRITICAL", 50), ("FATAL", 50), ("ERROR", 40), ("WARNING", 30), ("WARN", 30), ("INFO", 20),
   ("DEBUG", 10), ("NOTSET", 0)]

/-- The level of messages that matter in normal use. -/
def info : Int := 20

/-- The level that holds where no level has been set. -/
def warning : Int := 30

/-- The name under which a level is shown. -/
def levelName (level : Int) : String :=
  match namedLevels.find? fun entry => entry.2 == level with
  | some (name, _) => name
  | none => "Level " ++ intText level

/-- The failure of a word that names no level. Two words name something else about messages: how
they are laid out by default, and the ways in which layouts are written. -/
def notLevel (word : String) : Error :=
  if word = "BASIC_FORMAT" then .badValue ("Unknown level: " ++ Text.quoted word)
  else if word = "_STYLES" then .badArgument "Level not an integer or a valid string"
  else .noMember "module" word

/-- The level that a value names. -/
def levelOfValue (v : Value) : Result Int :=
  match v with
  | .str s =>
    let word := Text.upper s
    match List.lookup word namedLevels with
    | some level => .ok level
    | none => .error (notLevel word)
  | .bytes _ => .error (.badArgument "attribute name must be string, not 'bytes'")
  | v => .error (.noMember v.kindName "upper")

end DocView.Log
