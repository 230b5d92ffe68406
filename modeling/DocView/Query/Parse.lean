import DocView.Query.Basic

/-!
# Queries as text

A query may be written by hand or by a program that wraps it in a fenced block. Fences - three
backquotes and the tag of a language - are removed first. What is left has to be a JSON object:
a whole query if it has a selector, otherwise a selector by itself.

## Main definitions

* `Query.withoutFences`
* `Query.ofText`, `Query.ofObject`, `Query.parse`
-/

namespace DocView.Query

/-- The character that fences are made of. -/
def fenceMark : Char := Char.ofNat 0x60

/-- Whether a character may be part of a language tag. -/
def isTagChar (c : Char) : Bool := c.isAlphanum || c == '_' || c == '-'

/-- Characters without fences. `inTag` says that a fence has just been seen, whose tag is still to
be removed. -/
def removeFences : Bool → List Char → List Char
  | _, [] => []
  | inTag, c :: rest =>
    if inTag && isTagChar c then removeFences true rest
    else if c = fenceMark then
      match rest with
      | a :: b :: more =>
        if a = fenceMark ∧ b = fenceMark then removeFences true more
        else c :: removeFences false (a :: b :: more)
      | _ => c :: rest
    else c :: removeFences false rest

/-- A text without fences and without the blanks around what is left. -/
def withoutFences (s : String) : String :=
  String.ofList (Text.stripList (removeFences false s.toList))

/-- The members that have to be lists. -/
def listMembers : List String := ["fields", "sort"]

/-- Checks that a member is a plain list, if it is there. -/
def checkList (members : Members) (name : String) : Result Unit :=
  match Value.member members name with
  | .null => .ok ()
  | .list .plain _ => .ok ()
  | _ => .error (.queryMemberNotList name)

/-- A query from an object: a whole query if it has a selector, otherwise a selector. -/
def ofObject (v : Value) (defaultLimit : Value) : Result Query :=
  match v with
  | .object _ members =>
    match Members.get? members "selector" with
    | none => .ok (ofSelector members defaultLimit [] [])
    | some (.object _ _) => do
      let _ ← listMembers.mapM (checkList members)
      ofMembers members defaultLimit
    | some v => .error (.selectorNotObject v.kindName)
  | v => .error (.queryNotObject v.kindName)

/-- A query from its text. -/
def ofText (s : String) (defaultLimit : Value) : Result Query :=
  let cleaned := withoutFences s
  if cleaned = "" then .error .queryTextEmpty
  else match Json.read cleaned with
    | .ok v => ofObject v defaultLimit
    | .error (.syntaxFault fault) => .error (.queryNotJson fault)
    | .error (.tooManyDigits count) => .error (.tooManyDigits count)

/-- A query from a text or an object. -/
def parse (v : Value) (defaultLimit : Value) : Result Query :=
  match v with
  | .str s => ofText s defaultLimit
  | v => ofObject v defaultLimit

end DocView.Query
