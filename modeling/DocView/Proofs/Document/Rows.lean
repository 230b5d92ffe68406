import DocView.Sorting.Documents
import Mathlib.Data.List.Forall2

/-!
# Rows that carry their document

A listing may wrap every document in a row and keep the document under `doc`, next to whatever else
the row has to say. Field lookup does not see the wrapping, because it goes through the body, and the
body of a row is the document inside. That needs a document which is *bare*: one that has no object
under `doc` itself, or its own body would be yet another one.

Nothing here is about the values of fields. Two documents with the same body agree in every field,
whatever the field is and however it is looked up, and so two collections with the same bodies,
position by position, have the same fields and the same types.

## Main definitions

* `Document.isBare` - objects that are their own body
* `Document.Shows` - a row that is a document or carries it

## Main results

* `Document.body_eq_of_shows`, `Document.field_congr`
* `Fields.all_congr`, `Inference.ofFields_congr`, `SortKey.resolveAll_congr` - what is found out about
  a collection is a matter of the bodies
-/

namespace DocView

namespace Document

/-- Whether a value is an object without an object under `doc`. -/
def isBare : Value → Bool
  | .object _ members => !(Members.get? members "doc").any Value.isObject
  | _ => false

/-- A row of a listing that shows a document: the document itself, or an object with it under
`doc`. The other members of that object may be anything. -/
inductive Shows (document : Value) : Value → Prop where
  | bare : Shows document document
  | wrapped (form : Form) (members : Members) (h : members.get? "doc" = some document) :
      Shows document (.object form members)

theorem body_eq_of_isBare {form : Form} {members : Members}
    (h : isBare (.object form members)) : body (.object form members) = members := by
  rw [isBare] at h
  rw [body]
  cases hdoc : Members.get? members "doc" with
  | none => rfl
  | some v =>
    rw [hdoc] at h
    cases v with
    | object => contradiction
    | _ => rfl

theorem body_eq_of_shows {document row : Value} (hbare : isBare document)
    (h : Shows document row) : body row = body document := by
  cases h with
  | bare => rfl
  | wrapped form members hdoc =>
    cases document with
    | object innerForm inner =>
      rw [body_eq_of_isBare hbare, body, hdoc]
    | _ => contradiction

/-! ### Documents with the same body -/

variable {d d' : Value}

theorem namedField_congr (h : body d = body d') (name : String) :
    namedField d name = namedField d' name := by
  rw [namedField, namedField, h]

theorem field_congr (h : body d = body d') (f : Value) : field d f = field d' f := by
  cases f with
  | str name => rw [field, field, namedField_congr h]
  | _ => rfl

end Document

/-! ### Collections with the same bodies -/

/-- Collections of the same length with the same bodies, position by position. -/
abbrev SameBodies : List Value → List Value → Prop :=
  List.Forall₂ fun d d' => Document.body d = Document.body d'

variable {docs docs' : List Value}

theorem SameBodies.take (h : SameBodies docs docs') (window : Window) :
    SameBodies (window.take docs) (window.take docs') := by
  cases window with
  | none => exact h
  | some n => exact List.forall₂_take n h

namespace Fields

theorem names_congr (h : SameBodies docs docs') : names docs = names docs' := by
  have hflat : (docs.flatMap fun d => Members.names (Document.body d))
      = docs'.flatMap fun d => Members.names (Document.body d) := by
    induction h with
    | nil => rfl
    | cons hd _ ih => rw [List.flatMap_cons, List.flatMap_cons, hd, ih]
  rw [names, names, hflat]

theorem all_congr (h : SameBodies docs docs') (form : Form) (window : Value) :
    all (.list form docs) window = all (.list form docs') window := by
  show (do let window ← Window.ofValue window; .ok (names (window.take docs)) : Result _)
    = do let window ← Window.ofValue window; .ok (names (window.take docs'))
  cases Window.ofValue window with
  | error e => rfl
  | ok w => exact congrArg Except.ok (names_congr (h.take w))

theorem user_congr (h : SameBodies docs docs') (form : Form) (start window : Value) :
    user (.list form docs) start window = user (.list form docs') start window := by
  rw [user, user, all_congr h]

end Fields

namespace Inference

theorem fieldWindow_congr (h : SameBodies docs docs') (field : Value) (window : Window) :
    fieldWindow field window docs = fieldWindow field window docs' := by
  induction h generalizing window with
  | nil => rfl
  | cons hd _ ih =>
    -- An empty window is the one case in which the first document is not read.
    match window with
    | some 0 => rw [fieldWindow, fieldWindow]
    | none => simp only [fieldWindow, Document.field_congr hd, ih]
    | some (n + 1) => simp only [fieldWindow, Document.field_congr hd, ih]

theorem ofField_congr (h : SameBodies docs docs') (field window : Value) :
    ofField docs field window = ofField docs' field window := by
  simp only [ofField, fieldWindow_congr h]

theorem ofFields_congr (h : SameBodies docs docs') (fields : List Value) (window : Value) :
    ofFields docs fields window = ofFields docs' fields window := by
  simp only [ofFields, ofField_congr h]

end Inference

namespace SortKey

theorem resolve_congr (h : SameBodies docs docs') (window : Value) (key : SortKey) :
    key.resolve docs window = key.resolve docs' window := by
  simp only [resolve, Inference.ofField_congr h]

theorem resolveAll_congr (h : SameBodies docs docs') (window : Value) (keys : List Value) :
    resolveAll docs window keys = resolveAll docs' window keys := by
  induction keys with
  | nil => rfl
  | cons key rest ih => simp only [resolveAll, resolve_congr h, ih]

end SortKey

end DocView
