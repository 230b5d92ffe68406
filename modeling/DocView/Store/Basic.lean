import DocView.Argument
import DocView.Store.Disk
import DocView.Store.Format
import DocView.Store.Record
import DocView.Table
import DocView.Text.Case

/-!
# The store of saved queries

Records are kept in the order of their creation and found by their identifiers. A store in memory
is nothing but its records; a store on disk writes all of them to its file before a change takes
effect, so that a change that cannot be written does not happen.

An operation is an `Action`: it may fail, and whether it does or not, the clock has been read and
identifiers have been taken as far as it got. That is why a failure does not restore the state;
that the records stay as they were is a property of the operations.

## Main definitions

* `Store.State`, `Store.Action`
* `Store.commit` - the only place where records change
* `Store.create`, `Store.update`, `Store.delete`, `Store.importAll`, `Store.reload`
-/

namespace DocView.Store

/-- The file that a store keeps its records in. -/
structure Backing where
  path : Path
  format : Format
deriving DecidableEq, Repr, Inhabited

/-- A store together with what it draws on. -/
structure State where
  records : List SavedQuery
  backing : Option Backing
  supply : Supply
  disk : Disk

/-- A step of a store that may fail. -/
abbrev Action := ExceptT Error (StateM State)

/-- Runs an action. -/
def Action.apply {α : Type} (action : Action α) (s : State) : Result α × State :=
  StateT.run (ExceptT.run action) s

/-- Fails or succeeds without touching the state. -/
def Action.ofResult {α : Type} (r : Result α) : Action α := fun s => (r, s)

/-- Does something to the supply. -/
def Action.draw {α : Type} (f : Supply → α × Supply) : Action α := fun s =>
  let (x, supply) := f s.supply
  (.ok x, { s with supply := supply })

/-! ### Reading -/

/-- The record with an identifier. -/
def find? (records : List SavedQuery) (id : String) : Option SavedQuery :=
  records.find? fun q => q.id == id

/-- The identifiers in order. -/
def ids (records : List SavedQuery) : List String := records.map SavedQuery.id

/-- The flat forms of records. -/
def exported (records : List SavedQuery) : Value := .array (records.map SavedQuery.toValue)

/-- The record that a value identifies. -/
def lookUp (records : List SavedQuery) (id : Value) : Result SavedQuery :=
  match Document.unhashable? id with
  | some kind => .error (.unhashable kind)
  | none =>
    match id with
    | .str s =>
      match find? records s with
      | some q => .ok q
      | none => .error (.queryNotFound s)
    | v => .error (.queryNotFound v.display)

/-- Whether a value identifies a record. -/
def contains (records : List SavedQuery) (id : Value) : Result Bool :=
  match lookUp records id with
  | .ok _ => .ok true
  | .error (.queryNotFound _) => .ok false
  | .error e => .error e

/-- The record that a value identifies. -/
def fetch (id : Value) : Action SavedQuery := fun s => (lookUp s.records id, s)

/-! ### Changing -/

/-- Puts a record among others: in place of the one with its identifier, or at the end. -/
def put : List SavedQuery → SavedQuery → List SavedQuery
  | [], q => [q]
  | r :: rest, q => if r.id = q.id then q :: rest else r :: put rest q

/-- A list of records in which each identifier comes once: at its first place, with its last
record. -/
def collect (records : List SavedQuery) : List SavedQuery := records.foldl put []

/-- Writes records to the file of a store. -/
def persist (b : Backing) (records : List SavedQuery) : Action Unit := fun s =>
  match b.format.encode (exported records) with
  | .error e => (.error e, s)
  | .ok bytes =>
    match s.disk.replace b.path bytes with
    | (.ok (), disk) => (.ok (), { s with disk := disk })
    | (.error reason, disk) =>
      (.error (.storeUnwritable b.path.text reason), { s with disk := disk })

/-- Makes these the records of the store, once they are written. -/
def commit (records : List SavedQuery) : Action Unit := do
  let s ← getThe State
  if let some b := s.backing then persist b records
  modify fun s => { s with records := records }

/-- The members that an author gives, as a table. -/
def givenMembers (data : Value) : Result Members := do
  let entries ← (← Table.entries data).mapM fun (key, v) => do .ok ((← Table.keyText key), v)
  .ok (SavedQuery.authorMembers (Members.ofEntries entries))

/-- Saves a new query. -/
def create (data : Value) : Action SavedQuery := do
  let now ← Action.draw Supply.now
  let s ← getThe State
  let id ← Action.draw (Supply.unusedId (ids s.records))
  let attributes ← Action.ofResult (givenMembers data)
  let q : SavedQuery := ⟨id, .str now, .str now, attributes⟩
  commit (s.records ++ [q])
  return q

/-- Merges members into a saved query. -/
def update (id data : Value) : Action SavedQuery := do
  let s ← getThe State
  let old ← Action.ofResult (lookUp s.records id)
  let now ← Action.draw Supply.now
  let given ← Action.ofResult (givenMembers data)
  let q := { old with updatedAt := .str now, attributes := Members.overlay old.attributes given }
  commit (put s.records q)
  return q

/-- Deletes a saved query. -/
def delete (id : Value) : Action SavedQuery := do
  let s ← getThe State
  let q ← Action.ofResult (lookUp s.records id)
  commit (s.records.filter fun r => r.id != q.id)
  return q

/-- Records from their flat forms, in order. -/
def recordsOf : List Members → Supply → List SavedQuery × Supply
  | [], supply => ([], supply)
  | members :: rest, supply =>
    let (q, supply) := SavedQuery.ofMembers members supply
    let (qs, supply) := recordsOf rest supply
    (q :: qs, supply)

/-- Replaces all records. Answers how many there are now. -/
def importAll (data : Value) : Action Nat := do
  let given ← Action.ofResult (Argument.records data)
  let records ← Action.draw (recordsOf given)
  commit (collect records)
  let s ← getThe State
  return s.records.length

/-! ### Files -/

/-- Records from the values in a file, in order; each has to be an object. -/
def loadRecords : List Value → Action (List SavedQuery)
  | [] => return []
  | v :: rest => do
    match v.members? with
    | .ok members =>
      let q ← Action.draw (SavedQuery.ofMembers members)
      let qs ← loadRecords rest
      return q :: qs
    | .error e =>
      let _ ← Action.draw Supply.now
      throw e

/-- Reads the records of a file into the store. -/
def load (b : Backing) (unpack : Unpacker := .standard) : Action Unit := do
  let s ← getThe State
  match s.disk.read b.path with
  | .error reason => throw (.storeUnreadable b.path.text reason)
  | .ok bytes =>
    let items ← Action.ofResult (b.format.decode bytes unpack)
    let records ← loadRecords items
    modify fun s => { s with records := collect records }

/-- Reads the file of the store again. Only a store on disk has one. -/
def reload (unpack : Unpacker := .standard) : Action Unit := do
  let s ← getThe State
  match s.backing with
  | some b => load b unpack
  | none => throw (.noMember "MemoryQueryStore" "reload")

/-! ### Opening -/

/-- Opens a store on disk. A file that is missing is created without records, unless that is not
wanted. -/
def openFile (b : Backing) (createIfMissing : Bool) (unpack : Unpacker := .standard) :
    Action Unit := do
  let s ← getThe State
  if !s.disk.has b.path then
    if !createIfMissing then throw (.storeFileMissing b.path.text)
    modify fun s => { s with disk := s.disk.makeDirectories b.path }
    persist b []
  load b unpack
  modify fun s => { s with backing := some b }

/-- How a store is to be opened. -/
structure Request where
  kind : Value
  path : Option Path
  format : Value
  createIfMissing : Value

/-- Opens a store in memory or on disk. -/
def openAs (request : Request) : Action Unit :=
  match request.kind with
  | .str s =>
    let kind := Text.lower s
    if kind = "memory" then modify fun s => { s with records := [], backing := none }
    else if kind = "file" then
      match request.path with
      | none => throw (.badValue "path required for file store")
      | some path =>
        match Format.ofValue? request.format with
        | none => throw (.badValue (request.format.literal ++ " is not a valid StoreFormat"))
        | some format => openFile ⟨path, format⟩ request.createIfMissing.truthy
    else throw (.badValue ("Unknown store type: " ++ kind))
  | v => throw (.noMember v.kindName "lower")

/-- How a store is shown. -/
def literal (s : State) : String :=
  let size := "size=" ++ toString s.records.length ++ ")"
  match s.backing with
  | none => "MemoryQueryStore(" ++ size
  | some b =>
    "FileQueryStore(path='" ++ b.path.text ++ "', format=" ++ b.format.name ++ ", " ++ size

end DocView.Store
