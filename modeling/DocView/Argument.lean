import DocView.Document

/-!
# Checked arguments

Collections, page numbers, identifiers and imported records are checked where they enter. These
checks guard against mistakes of the calling program; what users type into conditions is never
refused here.

## Main definitions

* `Argument.documents`, `Argument.page`, `Argument.pageSize`
* `Argument.queryId`, `Argument.records`
-/

namespace DocView.Argument

/-- The largest page size. -/
def maxPageSize : Int := 100000

/-- The most characters in an identifier. -/
def maxIdLength : Nat := 128

/-- A collection of documents: a list of either form. -/
def documents : Value → Result (List Value)
  | .null => .error .documentsMissing
  | .list _ items => .ok items
  | v => .error (.documentsNotSequence v.kindName)

/-- A page number, counted from one. -/
def page : Value → Result Int
  | .int n => if n < 1 then .error (.pageTooSmall n) else .ok n
  | v => .error (.pageNotInteger v.kindName)

/-- A page size of at least one and at most `limit`. -/
def pageSize (v : Value) (limit : Int) : Result Int :=
  match v with
  | .int n =>
    if n < 1 then .error (.pageSizeTooSmall n)
    else if limit < n then .error (.pageSizeTooLarge n limit)
    else .ok n
  | v => .error (.pageSizeNotInteger v.kindName)

/-- The characters of identifiers. -/
def isIdChar (c : Char) : Bool := c.isAlphanum || c == '_' || c == '-'

/-- Whether a text has the form of an identifier: one or more of its characters and, at the very
end, at most one line break. -/
def isId (cs : List Char) : Bool :=
  let core := cs.takeWhile isIdChar
  let rest := cs.dropWhile isIdChar
  !core.isEmpty && (rest.isEmpty || rest == ['\n'])

/-- An identifier of a saved query. -/
def queryId : Value → Result String
  | .str s =>
    if s = "" then .error .idEmpty
    else if maxIdLength < s.length then .error (.idTooLong s.length)
    else if isId s.toList then .ok s
    else .error (.idMalformed s)
  | v => .error (.idNotText v.kindName)

/-- Whether a record carries an identifier: anything but null and the empty text. -/
def carriesId : Value → Bool
  | .null => false
  | .str s => s != ""
  | _ => true

/-- One imported record: a plain object whose identifier, if it carries one, is well formed. -/
def record (index : Nat) : Value → Result Members
  | .object .plain members => do
    let id := Value.member members "id"
    if carriesId id then
      let _ ← queryId (.str id.display)
      .ok members
    else .ok members
  | v => .error (.recordNotObject index v.kindName)

/-- Imported records, checked from the first on. -/
def recordsFrom : Nat → List Value → Result (List Members)
  | _, [] => .ok []
  | index, v :: rest => do
    let first ← record index v
    let others ← recordsFrom (index + 1) rest
    .ok (first :: others)

/-- A list of imported records. -/
def records : Value → Result (List Members)
  | .list .plain items => recordsFrom 0 items
  | v => .error (.recordsNotList v.kindName)

end DocView.Argument
