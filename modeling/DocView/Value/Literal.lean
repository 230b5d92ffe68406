import DocView.Binary64.Shortest
import DocView.Text.Quoted
import DocView.Value.Basic

/-!
# Values as literals

The form in which a value is shown in messages and inside other values: text in quotes, lists in
brackets, frozen lists in parentheses, objects in braces. `display` differs from `literal` at the
top only, where text stands without quotes and dates have their written form.

## Main definitions

* `Value.literal`, `Value.display`
-/

namespace DocView

/-- An integer in decimal. -/
def intText (n : Int) : String :=
  if n < 0 then "-" ++ toString n.natAbs else toString n.natAbs

/-- A length of time as a literal: whole days, seconds and microseconds, those that are zero left
out. Only the days may be negative. -/
def durationLiteral (micros : Int) : String :=
  let days := micros.fdiv 86400000000
  let rest := micros.fmod 86400000000
  let parts := [("days", days), ("seconds", rest / 1000000), ("microseconds", rest % 1000000)]
  let shown := (parts.filter (·.2 != 0)).map fun (name, n) => name ++ "=" ++ intText n
  "datetime.timedelta(" ++ (if shown.isEmpty then "0" else ", ".intercalate shown) ++ ")"

/-- A distance from universal time as a literal. -/
def zoneLiteral (offset : Int) : String :=
  if offset = 0 then "datetime.timezone.utc"
  else "datetime.timezone(" ++ durationLiteral offset ++ ")"

/-- A date as a literal. -/
def Date.literal (d : Date) : String :=
  "datetime.date(" ++ ", ".intercalate ([d.year, d.month, d.day].map toString) ++ ")"

/-- A moment as a literal; seconds and microseconds are left out where they are zero. -/
def Moment.literal (m : Moment) : String :=
  let clock := [m.date.year, m.date.month, m.date.day, m.hour, m.minute]
    ++ (if m.micro = 0 then (if m.second = 0 then [] else [m.second]) else [m.second, m.micro])
  let zone := match m.offset with
    | none => []
    | some offset => ["tzinfo=" ++ zoneLiteral offset]
  "datetime.datetime(" ++ ", ".intercalate (clock.map toString ++ zone) ++ ")"

namespace Value

/-- Items between parentheses; a single item keeps a comma. -/
def parenthesised : List String → String
  | [item] => "(" ++ item ++ ",)"
  | items => "(" ++ ", ".intercalate items ++ ")"

/-- Entries between braces. -/
def braced (entries : List String) : String := "\x7b" ++ ", ".intercalate entries ++ "\x7d"

mutual

/-- A value as a literal. -/
def literal : Value → String
  | .null => "None"
  | .unset => "UNSET"
  | .bool b => if b then "True" else "False"
  | .int n => intText n
  | .float x => x.text
  | .str s => Text.quoted s
  | .bytes bs => Text.quotedBytes bs
  | .date d => d.literal
  | .moment m => m.literal
  | .list .plain items => "[" ++ ", ".intercalate (itemLiterals items) ++ "]"
  | .list .frozen items => parenthesised (itemLiterals items)
  | .object .plain members => braced (memberLiterals members)
  | .object .frozen members => "mappingproxy(" ++ braced (memberLiterals members) ++ ")"

/-- The items of a list as literals. -/
def itemLiterals : List Value → List String
  | [] => []
  | v :: rest => literal v :: itemLiterals rest

/-- The members of an object as literals. -/
def memberLiterals : List (String × Value) → List String
  | [] => []
  | (name, v) :: rest => (Text.quoted name ++ ": " ++ literal v) :: memberLiterals rest

end

/-- A value shown on its own. -/
def display : Value → String
  | .str s => s
  | .date d => d.text
  | .moment m => m.text " "
  | .object _ members => braced (memberLiterals members)
  | v => literal v

end Value

end DocView
