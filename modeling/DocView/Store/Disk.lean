import DocView.Path
import DocView.Text.Quoted

/-!
# Files

What a file-backed store sees of a disk: files with their bytes, directories, at which step
writing fails, if it does, and whether files can be read.

A file is replaced as a whole or not at all: the new contents go to a draft beside it, which then
takes its place. Whatever step fails, the draft is removed and the file is as it was.

## Main definitions

* `Disk`, `Disk.read`
* `WriteStep`, `Disk.replace`
-/

namespace DocView

/-- The steps in which a file is replaced. -/
inductive WriteStep where
  /-- An empty draft is made. -/
  | create
  /-- The contents are written to the draft. -/
  | write
  /-- The contents are made durable. -/
  | sync
  /-- The draft takes the place of the file. -/
  | rename
deriving DecidableEq, Repr, Inhabited

/-- A step that fails, and why. -/
structure WriteFailure where
  step : WriteStep
  reason : String
deriving DecidableEq, Repr, Inhabited

/-- Files and directories. Writing fails at a step while there is a failure, and no file can be
read while there is a reason against it. -/
structure Disk where
  files : List (Path × List UInt8)
  directories : List Path
  failure : Option WriteFailure
  unreadable : Option String
deriving Repr, Inhabited

namespace Disk

/-- A disk with one directory and no files. -/
def empty (directory : Path) : Disk := ⟨[], [directory], none, none⟩

/-- The bytes of a file. -/
def file? (d : Disk) (p : Path) : Option (List UInt8) := List.lookup p d.files

/-- Whether a path leads to a directory. -/
def isDirectory (d : Disk) (p : Path) : Bool := d.directories.contains p

/-- Whether a path leads to anything. -/
def has (d : Disk) (p : Path) : Bool := (d.file? p).isSome || d.isDirectory p

/-- Reads a file; the failure is in words. -/
def read (d : Disk) (p : Path) : Except String (List UInt8) :=
  match d.unreadable, d.file? p with
  | some reason, _ => .error reason
  | none, some bytes => .ok bytes
  | none, none =>
    let reason :=
      if d.isDirectory p then "[Errno 21] Is a directory: "
      else "[Errno 2] No such file or directory: "
    .error (reason ++ Text.quoted p.text)

/-- Files with the bytes of one set: in place if it is there already, at the end otherwise. -/
def setFile : List (Path × List UInt8) → Path → List UInt8 → List (Path × List UInt8)
  | [], p, bytes => [(p, bytes)]
  | (q, old) :: rest, p, bytes =>
    if q = p then (q, bytes) :: rest else (q, old) :: setFile rest p bytes

/-- The disk with a file of these bytes, whatever there was before. -/
def put (d : Disk) (p : Path) (bytes : List UInt8) : Disk :=
  { d with files := setFile d.files p bytes }

/-- The disk without a file. -/
def remove (d : Disk) (p : Path) : Disk := { d with files := d.files.filter fun f => f.1 != p }

/-! ### Replacing a file -/

/-- The draft of a file. -/
def draft (p : Path) : Path :=
  ⟨p.root, p.names.dropLast ++ [(p.names.getLast?.getD "") ++ ".tmp"]⟩

/-- The disk with a file under another path. -/
def move (d : Disk) (source target : Path) : Disk :=
  match d.file? source with
  | some bytes => (d.remove source).put target bytes
  | none => d

/-- The disk after a step that succeeds. -/
def after (d : Disk) (p : Path) (bytes : List UInt8) : WriteStep → Disk
  | .create => d.put (draft p) []
  | .write => d.put (draft p) bytes
  | .sync => d
  | .rename => d.move (draft p) p

/-- Why a step fails; `none` if it succeeds. -/
def obstacle? (d : Disk) (step : WriteStep) : Option String :=
  d.failure.bind fun f => if f.step = step then some f.reason else none

/-- Does steps until one fails. -/
def attempt (p : Path) (bytes : List UInt8) : List WriteStep → Disk → Except String Unit × Disk
  | [], d => (.ok (), d)
  | step :: rest, d =>
    match d.obstacle? step with
    | some reason => (.error reason, d)
    | none => attempt p bytes rest (d.after p bytes step)

/-- Replaces a file by way of its draft; the failure is in words. -/
def replace (d : Disk) (p : Path) (bytes : List UInt8) : Except String Unit × Disk :=
  match attempt p bytes [.create, .write, .sync, .rename] d with
  | (.ok (), d) => (.ok (), d)
  | (.error reason, d) => (.error reason, d.remove (draft p))

/-! ### Directories -/

/-- All paths above one, the nearest first. -/
def above (p : Path) : List Path :=
  (List.range p.names.length).map fun i => ⟨p.root, p.names.take (p.names.length - 1 - i)⟩

/-- The disk with all directories above a path. -/
def makeDirectories (d : Disk) (p : Path) : Disk :=
  { d with directories := d.directories ++ (above p).filter fun q => !d.directories.contains q }

end Disk

end DocView
