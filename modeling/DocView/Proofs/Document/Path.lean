import DocView.Document
import DocView.Proofs.Text.Numeral
import DocView.Proofs.Json.Double

/-!
# Paths into documents

A field name with points in it is a path. What a path leads to can be said without any text: a
segment names a member of an object or counts the items of a list, and the value at the end is found
by following the segments through the document, one container after the other. The field has that
value, and it is null if there is no such value.

Two things stand between the field and the path. The name is one text, which has to fall into the
segments that it was joined from: so none of them has a point. And the body may have a member under
the whole of the name, which is then the field: so it must have none, unless the name has only one
segment and is no path at all.

A segment counts if it is read as an integer. Texts of other forms are read as integers too, with a
sign, with blanks or underscores, or in the digits of other scripts, and negative ones count from the
end. The statements here are about numerals in ASCII and about texts that are no integers. A numeral
of more than 4300 digits is both: it is not read, so it counts nothing, even if most of its digits
are zeros in front.

## Main definitions

* `Document.step?`, `Document.valueAt?` - following a path through a document
* `Document.numeral?`, `Document.shortNumeral?` - what segments count
* `Document.IsSegment`, `Document.pathName` - the segments, and the name that joins them

## Main results

* `Document.follow_eq` - a path is followed to the value at its end
* `Document.namedField_pathName` - the text of a path is the path
* `Document.field_pathName` - a field that is a path has the value at its end
-/

namespace DocView.Document

/-! ### Following a path -/

/-- One step into a value: to the member of an object that a segment names, or to the item of a plain
list that it counts. -/
def step? (index? : String → Option Nat) : Value → String → Option Value
  | .object _ members, part => Members.get? members part
  | .list .plain items, part => (index? part).bind fun n => items[n]?
  | _, _ => none

/-- The value at the end of a path, if every step of it exists. -/
def valueAt? (index? : String → Option Nat) : Value → List String → Option Value
  | v, [] => some v
  | v, part :: rest => (step? index? v part).bind fun w => valueAt? index? w rest

/-- What a segment counts that is a numeral. -/
def numeral? (part : String) : Option Nat :=
  if Text.IsNumeral part then some (Text.numeralValue part) else none

/-- What a segment counts that is a numeral of at most 4300 digits. -/
def shortNumeral? (part : String) : Option Nat :=
  if part.length ≤ 4300 then numeral? part else none

variable {document : Value} {part : String} {path : List String}

/-! ### What segments count -/

/-- A numeral, or a text that is no integer. -/
def IsSegment (part : String) : Prop :=
  Text.IsNumeral part ∨ ∃ fault, Text.integer? part = .error fault

/-- A short numeral is read as what it counts. -/
theorem integer?_of_shortNumeral? {n : Nat} (h : shortNumeral? part = some n) :
    Text.integer? part = .ok (n : Int) := by
  rw [shortNumeral?, numeral?] at h
  split_ifs at h with hshort hnumeral
  obtain rfl := Option.some.inj h
  have hread : ¬ Text.maxDigits < part.length := Nat.not_lt.mpr hshort
  rw [Text.integer?_of_isNumeral hnumeral, if_neg hread]

/-- A segment that counts nothing is not read. -/
theorem integer?_of_shortNumeral?_none (hpart : IsSegment part) (h : shortNumeral? part = none) :
    ∃ fault, Text.integer? part = .error fault := by
  rcases hpart with hnumeral | hfault
  · have hlong : 4300 < part.length := by
      by_contra hshort
      rw [shortNumeral?, if_pos (Nat.not_lt.mp hshort), numeral?, if_pos hnumeral] at h
      contradiction
    exact ⟨_, (Text.integer?_of_isNumeral hnumeral).trans (if_pos hlong)⟩
  · exact hfault

/-! ### The path and the text -/

/-- **A path is followed to the value at its end**, or to null if a step is missing. -/
theorem follow_eq (hpath : ∀ part ∈ path, IsSegment part) (v : Value) :
    follow v path = (valueAt? shortNumeral? v path).getD .null := by
  induction path generalizing v with
  | nil => rw [follow, valueAt?, Option.getD_some]
  | cons part rest ih =>
    obtain ⟨hpart, hrest⟩ := List.forall_mem_cons.mp hpath
    rw [valueAt?]
    cases v with
    | object form members =>
      rw [follow, step?]
      cases Members.get? members part with
      | none => rfl
      | some w => exact ih hrest w
    | list form items =>
      cases form with
      | frozen => rfl
      | plain =>
        rw [follow, step?]
        cases hcount : shortNumeral? part with
        | none =>
          obtain ⟨fault, hfault⟩ := integer?_of_shortNumeral?_none hpart hcount
          rw [hfault]
          rfl
        | some n =>
          have hitem : itemAt? items (n : Int) = items[n]? := by
            rw [itemAt?, if_pos (Int.natCast_nonneg n), Int.toNat_natCast]
          rw [integer?_of_shortNumeral? hcount, Option.bind_some]
          simp only [hitem]
          cases items[n]? with
          | none => rfl
          | some w => exact ih hrest w
    | _ => rfl

/-- The name that a path is written as. -/
abbrev pathName (path : List String) : String := ".".intercalate path

/-- A written path falls into its segments. -/
theorem parts_pathName (hne : path ≠ []) (hfree : ∀ part ∈ path, '.' ∉ part.toList) :
    Text.parts '.' (pathName path) = path := by
  have hpieces : path.map String.toList ≠ [] := by simpa using hne
  have hseparator : ∀ piece ∈ path.map String.toList, '.' ∉ piece := by
    simpa only [List.forall_mem_map] using hfree
  have hcut : Text.splitAt '.' (pathName path).toList = path.map String.toList := by
    rw [String.toList_intercalate]
    exact Text.splitAt_intercalate hpieces hseparator
  rw [Text.parts, hcut, List.map_map]
  exact List.map_id'' (fun part => String.ofList_toList) path

/-- A written path has a point if it has more than one segment. -/
theorem point_mem_pathName (first second : String) (rest : List String) :
    '.' ∈ (pathName (first :: second :: rest)).toList := by
  rw [String.toList_intercalate, List.map_cons, List.map_cons, List.intercalate_cons_cons]
  exact List.mem_append_left _ (List.mem_append_right _ List.mem_cons_self)

/-- **The text of a path is followed through the body**, if no member has it as its name. -/
theorem namedField_pathName (hne : path ≠ []) (hfree : ∀ part ∈ path, '.' ∉ part.toList)
    (hname : path.length = 1 ∨ Members.get? (body document) (pathName path) = none) :
    namedField document (pathName path) = follow (.record (body document)) path := by
  rw [namedField]
  match path with
  | [part] =>
    have hpart : pathName [part] = part := by simp [pathName]
    have hpoint : part.toList.contains '.' = false := by simpa using hfree part
    rw [hpart, hpoint, if_neg Bool.false_ne_true, Value.record]
    simp only [follow]
  | first :: second :: rest =>
    have hnone : Members.get? (body document) (pathName (first :: second :: rest)) = none :=
      hname.resolve_left (by simp)
    have hpoint : (pathName (first :: second :: rest)).toList.contains '.' = true :=
      List.contains_iff_mem.mpr (point_mem_pathName first second rest)
    rw [hnone, hpoint, if_pos rfl, parts_pathName hne hfree]

/-- **A field that is a path has the value at its end**, and is null if a step of the path is
missing. Looking it up never fails. A numeral counts the items of a list if it is short, and nothing
if it is too long to be read. -/
theorem field_pathName (hne : path ≠ []) (hfree : ∀ part ∈ path, '.' ∉ part.toList)
    (hpath : ∀ part ∈ path, IsSegment part)
    (hname : path.length = 1 ∨ Members.get? (body document) (pathName path) = none) :
    field document (.str (pathName path))
      = .ok ((valueAt? shortNumeral? (.record (body document)) path).getD .null) := by
  rw [field, namedField_pathName hne hfree hname, follow_eq hpath]

/-- A member of an item of a list in a row that carries its document, and an item that the list does
not have. -/
theorem field_pathName_row :
    let document := .record [("doc", .record [("tags", .array [.null, .record [("a b", .int 7)]])])]
    let path := ["tags", "01", "a b"]
    path ≠ [] ∧ (∀ part ∈ path, '.' ∉ part.toList) ∧ (∀ part ∈ path, IsSegment part) ∧
      (path.length = 1 ∨ Members.get? (body document) (pathName path) = none) ∧
      field document (.str (pathName path)) = .ok (.int 7) ∧
      field document (.str (pathName ["tags", "2"])) = .ok .null := by
  intro document path
  have hne : path ≠ [] := by decide
  have hfree : ∀ part ∈ path, '.' ∉ part.toList := by decide
  have hpath : ∀ part ∈ path, IsSegment part := by
    simp only [path, List.forall_mem_cons]
    exact ⟨.inr ⟨.malformed, rfl⟩, .inl (by decide), .inr ⟨.malformed, rfl⟩, List.forall_mem_nil _⟩
  have hname : path.length = 1 ∨ Members.get? (body document) (pathName path) = none :=
    .inr (by decide)
  have hmissing : ∀ part ∈ ["tags", "2"], IsSegment part := by
    simp only [List.forall_mem_cons]
    exact ⟨.inr ⟨.malformed, rfl⟩, .inl (by decide), List.forall_mem_nil _⟩
  have hvalue : valueAt? shortNumeral? (.record (body document)) path = some (.int 7) := rfl
  have hnone : valueAt? shortNumeral? (.record (body document)) ["tags", "2"] = none := rfl
  refine ⟨hne, hfree, hpath, hname, ?_, ?_⟩
  · rw [field_pathName hne hfree hpath hname, hvalue, Option.getD_some]
  · rw [field_pathName (by decide) (by decide) hmissing (.inr (by decide)), hnone, Option.getD_none]

/-! ### Numerals that are too long -/

/-- The number one with zeros in front, more digits than are read. -/
def paddedOne : String := String.ofList (Binary64.zeros 4300 ++ ['1'])

theorem isNumeral_paddedOne : Text.IsNumeral paddedOne := by
  refine ⟨?_, fun c hc => ?_⟩
  · rw [paddedOne, String.toList_ofList]
    exact List.append_ne_nil_of_right_ne_nil _ (List.cons_ne_nil _ _)
  · rw [paddedOne, String.toList_ofList, List.mem_append, List.mem_singleton] at hc
    rcases hc with hzero | rfl
    · rw [List.eq_of_mem_replicate hzero]
      rfl
    · rfl

theorem numeral?_paddedOne : numeral? paddedOne = some 1 := by
  rw [numeral?, if_pos isNumeral_paddedOne, ← Text.digitsValue_of_isNumeral isNumeral_paddedOne,
    paddedOne, String.toList_ofList, Text.digitsValue_zeros_append]
  rfl

theorem shortNumeral?_paddedOne : shortNumeral? paddedOne = none := by
  have hlength : paddedOne.length = 4301 := by
    rw [paddedOne, String.length_ofList, List.length_append, Binary64.zeros, List.length_replicate]
    rfl
  rw [shortNumeral?, hlength]
  rfl

/-- The second item of a list, counted by a one with zeros in front. The path leads to the item, and
the field is null. -/
theorem not_field_pathName_padded :
    let document := .record [("a", .array [.int 5, .int 6])]
    let path := ["a", paddedOne]
    path ≠ [] ∧ (∀ part ∈ path, '.' ∉ part.toList) ∧ (∀ part ∈ path, IsSegment part) ∧
      Members.get? (body document) (pathName path) = none ∧
      valueAt? numeral? (.record (body document)) path = some (.int 6) ∧
      field document (.str (pathName path)) = .ok .null := by
  intro document path
  have hfree : ∀ part ∈ path, '.' ∉ part.toList := by
    simp only [path, List.forall_mem_cons]
    refine ⟨by decide, fun hpoint => ?_, List.forall_mem_nil _⟩
    exact absurd (isNumeral_paddedOne.digits '.' hpoint) (by decide)
  have hpath : ∀ part ∈ path, IsSegment part := by
    simp only [path, List.forall_mem_cons]
    exact ⟨.inr ⟨.malformed, rfl⟩, .inl isNumeral_paddedOne, List.forall_mem_nil _⟩
  have hname : Members.get? (body document) (pathName path) = none := by
    have hother : (pathName path == "a") = false := by
      rw [beq_eq_false_iff_ne]
      intro heq
      have hpoint := point_mem_pathName "a" paddedOne []
      rw [heq] at hpoint
      exact absurd hpoint (by decide)
    show List.lookup (pathName path) [("a", _)] = none
    rw [List.lookup_cons, hother]
    rfl
  have hstep : ∀ index?, valueAt? index? (.record (body document)) path
      = ((index? paddedOne).bind fun n => [Value.int 5, .int 6][n]?).bind some := fun _ => rfl
  have hvalue : valueAt? numeral? (.record (body document)) path = some (.int 6) := by
    rw [hstep, numeral?_paddedOne]
    rfl
  refine ⟨List.cons_ne_nil _ _, hfree, hpath, hname, hvalue, ?_⟩
  rw [field, namedField_pathName (List.cons_ne_nil _ _) hfree (.inr hname), follow_eq hpath,
    hstep, shortNumeral?_paddedOne]
  rfl

end DocView.Document
