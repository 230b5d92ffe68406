import DocView.Argument
import DocView.Text.Occurrence
import DocView.Window

/-!
# Field discovery

The names that occur at the top level of the documents of a collection, without repetition and in
ascending order. Names that start with the prefix of internal fields can be left out.

## Main definitions

* `Fields.insertName`, `Fields.names` - a sorted list without repetition
* `Fields.all`, `Fields.user`
-/

namespace DocView.Fields

/-- The prefix of internal fields, unless a setting says otherwise. -/
def internalPrefix : String := "_"

/-- Puts a name into an ascending list that does not have it yet. -/
def insertName (name : String) : List String → List String
  | [] => [name]
  | n :: rest =>
    if name < n then name :: n :: rest
    else if name = n then n :: rest
    else n :: insertName name rest

/-- All names of a list in ascending order, each once. -/
def sortNames (names : List String) : List String := names.foldr insertName []

/-- The names in the bodies of documents. -/
def names (documents : List Value) : List String :=
  sortNames (documents.flatMap fun d => Members.names (Document.body d))

/-- Whether a name is internal under a prefix. No name is internal under a prefix that is not
truthy; a frozen list is a choice of prefixes. -/
def isInternal (start : Value) (name : String) : Result Bool :=
  if !start.truthy then .ok false
  else match start with
    | .str s => .ok (Text.startsWith name s)
    | .list .frozen items => choice items
    | v => .error (.badArgument ("startswith first arg must be str or a tuple of str, not "
        ++ v.kindName))
where
  /-- Whether one of the given prefixes fits; all before it have to be texts. -/
  choice : List Value → Result Bool
    | [] => .ok false
    | .str s :: rest => if Text.startsWith name s then .ok true else choice rest
    | v :: _ => .error (.badArgument ("tuple for startswith must only contain str, not "
        ++ v.kindName))

/-- The names that are not internal under a prefix. -/
def withoutInternal (start : Value) : List String → Result (List String)
  | [] => .ok []
  | name :: rest => do
    let isHidden ← isInternal start name
    let others ← withoutInternal start rest
    .ok (if isHidden then others else name :: others)

/-- The fields of a collection. -/
def all (documents : Value) (window : Value) : Result (List String) := do
  let documents ← Argument.documents documents
  let window ← Window.ofValue window
  .ok (names (window.take documents))

/-- The fields of a collection that are not internal. -/
def user (documents : Value) (start window : Value) : Result (List String) := do
  withoutInternal start (← all documents window)

end DocView.Fields
