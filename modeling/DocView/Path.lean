import DocView.Text.Split

/-!
# Paths of files

A path is a root and the names below it. Empty names and single points mean nothing and are left
out. Two slashes at the start are a root of their own; three or more are the plain root.

## Main definitions

* `Path`, `Path.ofText`, `Path.text`, `Path.join`
-/

namespace DocView

/-- A path: the slashes that it starts with, and its names. -/
structure Path where
  root : String
  names : List String
deriving DecidableEq, Repr, Inhabited

namespace Path

/-- The root that a path starting with so many slashes has. -/
def rootOf (slashes : Nat) : String :=
  match slashes with
  | 0 => ""
  | 2 => "//"
  | _ => "/"

/-- The path that a text denotes. -/
def ofText (s : String) : Path :=
  let slashes := (s.toList.takeWhile fun c => c == '/').length
  ⟨rootOf slashes, (Text.parts '/' s).filter fun name => name != "" && name != "."⟩

/-- A path written out; the one without root and names is a point. -/
def text (p : Path) : String :=
  if p.root == "" && p.names.isEmpty then "." else p.root ++ "/".intercalate p.names

/-- A path below another one. A path that has a root stands by itself. -/
def join (above below : Path) : Path :=
  if below.root == "" then ⟨above.root, above.names ++ below.names⟩ else below

/-- The path without its last name. -/
def parent (p : Path) : Path := ⟨p.root, p.names.dropLast⟩

end Path

end DocView
