import DocView.Proofs.Value.Data
import DocView.Proofs.Value.Form

/-!
# The texts in a value

A value has texts in two places: as values somewhere inside it, and as the names of objects. They
are collected here, and changed one by one without touching anything else. Two names of one object
may become the same that way. Such an object still has both members, and merging it keeps the place
of the first and the value of the last, as a reader does with a name that comes twice.

## Main definitions

* `Value.texts` - the names and the texts in a value
* `Value.mapTexts` - the value with each of them changed
* `Value.merged` - the value with names that come twice merged

## Main results

* `Value.texts_mapTexts`, `Value.mem_texts_of_mem_texts_merged`, `Value.texts_withForm`
* `Value.merged_eq_self` - nothing is merged where names are distinct
-/

namespace DocView.Value

mutual

/-- The names and the texts in a value. -/
def texts : Value → List String
  | .str s => [s]
  | .list _ items => textsOfItems items
  | .object _ members => textsOfMembers members
  | _ => []

/-- The names and the texts in the items of a list. -/
def textsOfItems : List Value → List String
  | [] => []
  | v :: rest => texts v ++ textsOfItems rest

/-- The names and the texts in the members of an object. -/
def textsOfMembers : List (String × Value) → List String
  | [] => []
  | (name, v) :: rest => name :: texts v ++ textsOfMembers rest

end

mutual

/-- A value with a change made to its names and texts. -/
def mapTexts (f : String → String) : Value → Value
  | .str s => .str (f s)
  | .list form items => .list form (mapItemTexts f items)
  | .object form members => .object form (mapMemberTexts f members)
  | v => v

/-- Items with a change made to their names and texts. -/
def mapItemTexts (f : String → String) : List Value → List Value
  | [] => []
  | v :: rest => mapTexts f v :: mapItemTexts f rest

/-- Members with a change made to their names and texts. -/
def mapMemberTexts (f : String → String) : List (String × Value) → List (String × Value)
  | [] => []
  | (name, v) :: rest => (f name, mapTexts f v) :: mapMemberTexts f rest

end

mutual

/-- A value in whose objects no name comes twice: a repeated name keeps its first place and its last
value. -/
def merged : Value → Value
  | .list form items => .list form (mergedItems items)
  | .object form members => .object form (Members.ofEntries (mergedMembers members))
  | v => v

/-- Items in whose objects no name comes twice. -/
def mergedItems : List Value → List Value
  | [] => []
  | v :: rest => merged v :: mergedItems rest

/-- Members in the objects of whose values no name comes twice. -/
def mergedMembers : List (String × Value) → List (String × Value)
  | [] => []
  | (name, v) :: rest => (name, merged v) :: mergedMembers rest

end

variable {f : String → String} {s : String}

/-! ### Item by item, member by member -/

theorem mem_textsOfItems {items : List Value} :
    s ∈ textsOfItems items ↔ ∃ v ∈ items, s ∈ texts v := by
  induction items with
  | nil => simp [textsOfItems]
  | cons v rest ih => simp [textsOfItems, ih]

theorem mem_textsOfMembers {members : Members} :
    s ∈ textsOfMembers members ↔ ∃ entry ∈ members, s = entry.1 ∨ s ∈ texts entry.2 := by
  induction members with
  | nil => simp [textsOfMembers]
  | cons entry rest ih => simp [textsOfMembers, ih, or_assoc]

theorem mapItemTexts_eq_map (items : List Value) :
    mapItemTexts f items = items.map (mapTexts f) := by
  induction items with
  | nil => rfl
  | cons v rest ih => rw [mapItemTexts, ih, List.map_cons]

theorem mapMemberTexts_eq_map (members : Members) :
    mapMemberTexts f members = members.map fun entry => (f entry.1, mapTexts f entry.2) := by
  induction members with
  | nil => rfl
  | cons entry rest ih => rw [mapMemberTexts, ih, List.map_cons]

theorem mergedItems_eq_map (items : List Value) : mergedItems items = items.map merged := by
  induction items with
  | nil => rfl
  | cons v rest ih => rw [mergedItems, ih, List.map_cons]

theorem mergedMembers_eq_map (members : Members) :
    mergedMembers members = members.map fun entry => (entry.1, merged entry.2) := by
  induction members with
  | nil => rfl
  | cons entry rest ih => rw [mergedMembers, ih, List.map_cons]

/-! ### The texts of a changed value -/

theorem texts_withForm (form : Form) (v : Value) : texts (withForm form v) = texts v := by
  induction v using containerInduction with
  | list given items ih =>
    rw [withForm, texts, texts]
    clear given
    induction items with
    | nil => rfl
    | cons v rest ihrest =>
      obtain ⟨hv, hrest⟩ := List.forall_mem_cons.mp ih
      rw [withFormItems, textsOfItems, textsOfItems, hv, ihrest hrest]
  | object given members ih =>
    rw [withForm, texts, texts]
    clear given
    induction members with
    | nil => rfl
    | cons entry rest ihrest =>
      obtain ⟨hv, hrest⟩ := List.forall_mem_cons.mp ih
      rw [withFormMembers, textsOfMembers, textsOfMembers, hv, ihrest hrest]
  | scalar v hv => rw [withForm_of_scalar hv]

/-- The texts of a changed value are the changed texts. -/
theorem texts_mapTexts (f : String → String) (v : Value) :
    texts (mapTexts f v) = (texts v).map f := by
  induction v using containerInduction with
  | list form items ih =>
    rw [mapTexts, texts, texts]
    induction items with
    | nil => rfl
    | cons v rest ihrest =>
      obtain ⟨hv, hrest⟩ := List.forall_mem_cons.mp ih
      rw [mapItemTexts, textsOfItems, textsOfItems, hv, ihrest hrest, List.map_append]
  | object form members ih =>
    rw [mapTexts, texts, texts]
    induction members with
    | nil => rfl
    | cons entry rest ihrest =>
      obtain ⟨hv, hrest⟩ := List.forall_mem_cons.mp ih
      rw [mapMemberTexts, textsOfMembers, textsOfMembers, hv, ihrest hrest, List.map_append, List.map_cons]
  | scalar v hv => cases v <;> first | rfl | contradiction

/-- A change that leaves every text as it is leaves the value as it is. -/
theorem mapTexts_eq_self {v : Value} (h : ∀ s ∈ texts v, f s = s) : mapTexts f v = v := by
  induction v using containerInduction with
  | list form items ih =>
    have hitems : items.map (mapTexts f) = items.map id :=
      List.map_congr_left fun v hv => ih v hv fun s hs => h s (mem_textsOfItems.mpr ⟨v, hv, hs⟩)
    rw [mapTexts, mapItemTexts_eq_map, hitems, List.map_id]
  | object form members ih =>
    have hmembers : members.map (fun entry => (f entry.1, mapTexts f entry.2)) = members.map id := by
      refine List.map_congr_left fun entry hentry => ?_
      rw [h entry.1 (mem_textsOfMembers.mpr ⟨entry, hentry, .inl rfl⟩),
        ih entry hentry fun s hs => h s (mem_textsOfMembers.mpr ⟨entry, hentry, .inr hs⟩)]
      rfl
    rw [mapTexts, mapMemberTexts_eq_map, hmembers, List.map_id]
  | scalar v hv =>
    cases v with
    | str s => exact congrArg Value.str (h s List.mem_cons_self)
    | list | object => contradiction
    | _ => rfl

/-- Merging brings in no text. -/
theorem mem_texts_of_mem_texts_merged {v : Value} (hs : s ∈ texts (merged v)) : s ∈ texts v := by
  induction v using containerInduction with
  | list form items ih =>
    rw [merged, texts, mergedItems_eq_map, mem_textsOfItems] at hs
    obtain ⟨_, hmem, hs⟩ := hs
    obtain ⟨v, hv, rfl⟩ := List.mem_map.mp hmem
    exact mem_textsOfItems.mpr ⟨v, hv, ih v hv hs⟩
  | object form members ih =>
    rw [merged, texts, mergedMembers_eq_map, mem_textsOfMembers] at hs
    obtain ⟨_, hmem, hs⟩ := hs
    obtain ⟨entry, hentry, rfl⟩ := List.mem_map.mp (Members.mem_of_mem_ofEntries hmem)
    exact mem_textsOfMembers.mpr ⟨entry, hentry, hs.imp_right (ih entry hentry)⟩
  | scalar v hv => cases v <;> first | exact hs | contradiction

/-- Nothing is merged in data, where names are distinct. -/
theorem merged_eq_self {double : Binary64 → Prop} {v : Value} (hv : v.IsData double) :
    merged v = v := by
  induction hv with
  | list _ ih =>
    rw [merged, mergedItems_eq_map, List.map_congr_left (g := id) ih, List.map_id]
  | @object members distinct _ ih =>
    have hmembers : members.map (fun entry => (entry.1, merged entry.2)) = members.map id := by
      refine List.map_congr_left fun entry hentry => ?_
      rw [ih entry hentry]
      rfl
    rw [merged, mergedMembers_eq_map, hmembers, List.map_id, Members.ofEntries_eq_self distinct]
  | _ => rfl

end DocView.Value
