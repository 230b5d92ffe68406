import DocView.Proofs.Store.Encoding
import DocView.Proofs.Store.Ledger
import DocView.Proofs.Store.Reachable

/-!
# Loading a file

The file of a store may have been written by hand or damaged, so its bytes are arbitrary. So is what
reads MessagePack: whatever it takes the bytes to be, the rest is up to the store. Three
things are asked of them: they have to be readable at all, they have to decode as a list, and every
item of the list has to be an object. The first two are checked, and a file that does not pass is
refused as what it is, one that cannot be read or one that cannot be decoded.

The third is not checked. Records are taken from the items one after the other, and the first item
that is no object fails as a value that has no members would fail anywhere. That is no failure of
the store, so those who handle the failures of a store do not see it.

However loading fails, it fails before any record is kept. A store that is open has its records
still, and the file is not touched. What was taken from the clock and from the generator of
identifiers is gone.

## Main definitions

* `Store.Opening` - a store is opened on its file, or reads it again
* `Store.strayKind?` - the kind of the first item of a list that is no object
* `Store.Loads` - how loading a file ends
* `Store.LoadedFrom` - what is known of a store after that

## Main results

* `Format.category_of_decode` - bytes that are no list of values fail in one way
* `Store.Opening.loads` - loading a file ends in one of these ways
* `Store.Opening.outcome` - what comes of a file with arbitrary bytes
-/

namespace DocView

/-- Bytes that are no list of values fail in one way, in either format. -/
theorem Format.category_of_decode {format : Format} {unpack : Unpacker} {bytes : List UInt8}
    {e : Error} (h : format.decode bytes unpack = .error e) : e.category = .serialization := by
  have hvalue : ∀ e, format.decodeValue bytes unpack = .error e → e.category = .serialization := by
    intro e h
    unfold decodeValue at h
    split at h
    · split at h
      · cases h; rfl
      · split at h
        · cases h
        · cases h; rfl
    · split at h
      · cases h
      · cases h; rfl
  unfold decode at h
  split_ifs at h
  rcases bind_eq_error.mp h with hfault | ⟨v, -, h⟩
  · exact hvalue e hfault
  · split at h
    · cases h
    · cases h; rfl

namespace Store

variable {b : Backing} {unpack : Unpacker} {s t : State} {bytes : List UInt8} {items : List Value}
  {given : List Members} {e : Error}

/-! ### Items -/

/-- The kind of the first item of a list that is no object. -/
def strayKind? (items : List Value) : Option String :=
  (items.find? fun v => !v.isObject).map Value.kindName

/-- A list is one of objects, or its first item that is none has no members. -/
theorem mapM_members?_cases (items : List Value) :
    (strayKind? items = none ∧ ∃ given, items.mapM Value.members? = .ok given) ∨
      ∃ kind, strayKind? items = some kind ∧
        items.mapM Value.members? = .error (.noMember kind "get") := by
  induction items with
  | nil => exact .inl ⟨rfl, [], rfl⟩
  | cons v rest ih =>
    cases v with
    | object form members =>
      have hstray : strayKind? (.object form members :: rest) = strayKind? rest := rfl
      rw [hstray, List.mapM_cons]
      rcases ih with ⟨hnone, given, hgiven⟩ | ⟨kind, hsome, herror⟩
      · rw [hgiven]
        exact .inl ⟨hnone, members :: given, rfl⟩
      · rw [herror]
        exact .inr ⟨kind, hsome, rfl⟩
    | _ => exact .inr ⟨_, rfl, rfl⟩

/-- Records are taken from objects as they are from what is imported. -/
theorem loadRecords_of_members (h : items.mapM Value.members? = .ok given) (s : State) :
    (loadRecords items).apply s
      = (.ok (recordsOf given s.supply).1, { s with supply := (recordsOf given s.supply).2 }) := by
  rw [mapM_eq_ok_iff] at h
  induction h generalizing s with
  | nil => rfl
  | cons hmembers hothers ih =>
    rw [loadRecords, hmembers]
    simp only [Action.apply_bind, Action.apply_draw, ih]
    rfl

/-- An item without members ends it. Some of the supply may have been taken by then. -/
theorem loadRecords_of_stray (h : items.mapM Value.members? = .error e) (s : State) :
    ∃ supply, (loadRecords items).apply s = (.error e, { s with supply := supply }) := by
  induction items generalizing s with
  | nil => cases h
  | cons v rest ih =>
    rw [loadRecords]
    rw [List.mapM_cons] at h
    rcases bind_eq_error.mp h with hstray | ⟨members, hmembers, h⟩
    · rw [hstray]
      exact ⟨_, rfl⟩
    · have hrest : rest.mapM Value.members? = .error e := by
        rcases bind_eq_error.mp h with hrest | ⟨_, -, h⟩
        · exact hrest
        · cases h
      obtain ⟨supply, hload⟩ :=
        ih hrest { s with supply := (SavedQuery.ofMembers members s.supply).2 }
      rw [hmembers]
      simp only [Action.apply_bind, Action.apply_draw, hload]
      exact ⟨supply, rfl⟩

/-! ### One load -/

/-- The state after records were loaded from a file. -/
def loaded (b : Backing) (given : List Members) (s : State) : State :=
  ⟨collect (recordsOf given s.supply).1, some b, (recordsOf given s.supply).2, s.disk⟩

/-- The ways in which loading a file of some bytes ends. -/
inductive Loads (b : Backing) (unpack : Unpacker) (bytes : List UInt8) (s : State) :
    Result Unit × State → Prop
  /-- The file cannot be read. -/
  | unreadable {reason : String} (unreadable : s.disk.unreadable = some reason) :
    Loads b unpack bytes s (.error (.storeUnreadable b.path.text reason), s)
  /-- The bytes are no list of values. -/
  | undecodable {e : Error} (readable : s.disk.unreadable = none)
    (undecodable : b.format.decode bytes unpack = .error e) : Loads b unpack bytes s (.error e, s)
  /-- An item is no object. -/
  | stray {items : List Value} {kind : String} {supply : Supply}
    (readable : s.disk.unreadable = none) (decoded : b.format.decode bytes unpack = .ok items)
    (stray : strayKind? items = some kind) :
    Loads b unpack bytes s (.error (.noMember kind "get"), { s with supply := supply })
  /-- The records are kept. -/
  | kept {items : List Value} {given : List Members}
    (readable : s.disk.unreadable = none) (decoded : b.format.decode bytes unpack = .ok items)
    (objects : strayKind? items = none) (members : items.mapM Value.members? = .ok given) :
    Loads b unpack bytes s (.ok (), loaded b given s)

/-- The ways to load a file. -/
inductive Opening where
  /-- A store is opened on it. -/
  | first (createIfMissing : Bool)
  /-- The store that is open on it reads it again. -/
  | again

namespace Opening

/-- A file is loaded. -/
def action (b : Backing) (unpack : Unpacker) : Opening → Action Unit
  | .first createIfMissing => openFile b createIfMissing unpack
  | .again => reload unpack

/-- Only a store that is open on the file can read it again. -/
def Applies (b : Backing) (s : State) : Opening → Prop
  | .first _ => True
  | .again => s.backing = some b

variable {opening : Opening} {supply : Supply} {records : List SavedQuery}

theorem apply_of_load_error (happlies : opening.Applies b s) (hhas : s.disk.has b.path = true)
    (h : (load b unpack).apply s = (.error e, t)) :
    (opening.action b unpack).apply s = (.error e, t) := by
  cases opening with
  | first createIfMissing =>
    show (openFile b createIfMissing unpack).apply s = _
    rw [openFile, Action.apply_bind_ok (Action.apply_get s)]
    simp only [hhas, Bool.not_true, Bool.false_eq_true, if_false]
    exact Action.apply_bind_error h
  | again =>
    show (reload unpack).apply s = _
    rw [reload, Action.apply_bind_ok (Action.apply_get s), happlies]
    exact h

theorem apply_of_load_ok (happlies : opening.Applies b s) (hhas : s.disk.has b.path = true)
    (h : (load b unpack).apply s = (.ok (), { s with supply := supply, records := records })) :
    (opening.action b unpack).apply s = (.ok (), ⟨records, some b, supply, s.disk⟩) := by
  cases opening with
  | first createIfMissing =>
    show (openFile b createIfMissing unpack).apply s = _
    rw [openFile, Action.apply_bind_ok (Action.apply_get s)]
    simp only [hhas, Bool.not_true, Bool.false_eq_true, if_false]
    rw [Action.apply_bind_ok h, Action.apply_modify]
  | again =>
    show (reload unpack).apply s = _
    rw [reload, Action.apply_bind_ok (Action.apply_get s), happlies]
    have hbacking : s.backing = some b := happlies
    exact h.trans (by rw [hbacking])

/-- **Loading a file ends in one of these ways**, whatever its bytes are. -/
theorem loads (unpack : Unpacker) (opening : Opening) (happlies : opening.Applies b s)
    (hfile : s.disk.file? b.path = some bytes) :
    Loads b unpack bytes s ((opening.action b unpack).apply s) := by
  have hhas : s.disk.has b.path = true := by
    rw [Disk.has, hfile]
    rfl
  cases hunreadable : s.disk.unreadable with
  | some reason =>
    have hread : s.disk.read b.path = .error reason := by rw [Disk.read, hunreadable]
    have hload : (load b unpack).apply s = (.error (.storeUnreadable b.path.text reason), s) := by
      simp only [load, Action.apply_bind, Action.apply_get, hread, Action.apply_throw]
    rw [apply_of_load_error happlies hhas hload]
    exact .unreadable hunreadable
  | none =>
    have hread : s.disk.read b.path = .ok bytes := by rw [Disk.read, hunreadable, hfile]
    cases hdecode : b.format.decode bytes unpack with
    | error e =>
      have hload : (load b unpack).apply s = (.error e, s) := by
        simp only [load, Action.apply_bind, Action.apply_get, hread, Action.apply_ofResult, hdecode]
      rw [apply_of_load_error happlies hhas hload]
      exact .undecodable hunreadable hdecode
    | ok items =>
      rcases mapM_members?_cases items with ⟨hobjects, given, hgiven⟩ | ⟨kind, hstray, herror⟩
      · have hload := load_apply hread hdecode (loadRecords_of_members hgiven s)
        rw [apply_of_load_ok happlies hhas hload]
        exact .kept hunreadable hdecode hobjects hgiven
      · obtain ⟨supply, hrecords⟩ := loadRecords_of_stray herror s
        have hload : (load b unpack).apply s
            = (.error (.noMember kind "get"), { s with supply := supply }) := by
          simp only [load, Action.apply_bind, Action.apply_get, hread, Action.apply_ofResult,
            hdecode, hrecords]
        rw [apply_of_load_error happlies hhas hload]
        exact .stray hunreadable hdecode hstray

end Opening

/-! ### Any file -/

/-- What is known of a store after a file of some bytes was loaded. -/
structure LoadedFrom (b : Backing) (unpack : Unpacker) (bytes : List UInt8) (s t : State) :
    Prop where
  /-- The bytes are a list of objects. A record is restored from each one, and of the records with
  one identifier the last one is kept. -/
  records : ∃ (items : List Value) (given : List Members) (qs : List SavedQuery),
    b.format.decode bytes unpack = .ok items ∧ items.mapM Value.members? = .ok given ∧
    List.Forall₂ (Restored s.supply t.supply) given qs ∧ Collected qs t.records
  /-- The store is open on the file. -/
  backing : t.backing = some b
  /-- Nothing was written. -/
  disk : t.disk = s.disk

theorem loadedFrom_loaded (decoded : b.format.decode bytes unpack = .ok items)
    (members : items.mapM Value.members? = .ok given) (s : State) :
    LoadedFrom b unpack bytes s (loaded b given s) where
  records := ⟨items, given, _, decoded, members, restored_recordsOf given s.supply,
    collected_collect _⟩
  backing := rfl
  disk := rfl

namespace Loads

variable {o : Result Unit × State} {kind : String}

theorem eq_ok (h : Loads b unpack bytes s (.ok (), t)) : s.disk.unreadable = none ∧
    ∃ items given, b.format.decode bytes unpack = .ok items ∧ strayKind? items = none ∧
      items.mapM Value.members? = .ok given ∧ t = loaded b given s := by
  cases h with
  | kept readable decoded objects members =>
    exact ⟨readable, _, _, decoded, objects, members, rfl⟩

theorem eq_noMember (h : Loads b unpack bytes s (.error (.noMember kind "get"), t)) :
    s.disk.unreadable = none ∧
      ∃ items, b.format.decode bytes unpack = .ok items ∧ strayKind? items = some kind := by
  cases h with
  | undecodable _ undecodable => cases Format.category_of_decode undecodable
  | stray readable decoded stray => exact ⟨readable, _, decoded, stray⟩

theorem eq_error (h : Loads b unpack bytes s (.error e, t)) :
    (e.category = .storage ∨ e.category = .serialization ∨ ∃ kind, e = .noMember kind "get") ∧
      ∃ supply, t = { s with supply := supply } := by
  cases h with
  | unreadable => exact ⟨.inl rfl, s.supply, rfl⟩
  | undecodable _ undecodable =>
    exact ⟨.inr (.inl (Format.category_of_decode undecodable)), s.supply, rfl⟩
  | stray => exact ⟨.inr (.inr ⟨_, rfl⟩), _, rfl⟩

theorem exists_eq_ok (h : Loads b unpack bytes s o) (readable : s.disk.unreadable = none)
    (decoded : b.format.decode bytes unpack = .ok items) (objects : strayKind? items = none) :
    ∃ t, o = (.ok (), t) := by
  cases h with
  | unreadable unreadable => cases readable.symm.trans unreadable
  | undecodable _ undecodable => cases decoded.symm.trans undecodable
  | stray _ decoded' stray =>
    cases decoded.symm.trans decoded'
    cases objects.symm.trans stray
  | kept => exact ⟨_, rfl⟩

theorem exists_eq_noMember (h : Loads b unpack bytes s o) (readable : s.disk.unreadable = none)
    (decoded : b.format.decode bytes unpack = .ok items) (stray : strayKind? items = some kind) :
    ∃ t, o = (.error (.noMember kind "get"), t) := by
  cases h with
  | unreadable unreadable => cases readable.symm.trans unreadable
  | undecodable _ undecodable => cases decoded.symm.trans undecodable
  | stray _ decoded' stray' =>
    cases decoded.symm.trans decoded'
    cases stray.symm.trans stray'
    exact ⟨_, rfl⟩
  | kept _ decoded' objects _ =>
    cases decoded.symm.trans decoded'
    cases stray.symm.trans objects

end Loads

/-- **What comes of a file with arbitrary bytes**, in either format and however MessagePack is read,
if a store is opened on it or reads it again. Its records are loaded, or the failure is one of the
store, or an item of the file is no object. The last is the case for the files that can be read and
decoded as a list with such an item, and for no others; the failure is then that the first of these
items has no members. Whatever the failure is, the store has the records that it had, and nothing
was written. -/
theorem Opening.outcome (unpack : Unpacker) (opening : Opening)
    (hfile : s.disk.file? b.path = some bytes) (happlies : opening.Applies b s) :
    (∀ t, (opening.action b unpack).apply s = (.ok (), t) → LoadedFrom b unpack bytes s t) ∧
    ((∃ t, (opening.action b unpack).apply s = (.ok (), t)) ↔ s.disk.unreadable = none ∧
      ∃ items, b.format.decode bytes unpack = .ok items ∧ strayKind? items = none) ∧
    (∀ e t, (opening.action b unpack).apply s = (.error e, t) →
      (e.category = .storage ∨ e.category = .serialization ∨ ∃ kind, e = .noMember kind "get") ∧
      t.records = s.records ∧ t.backing = s.backing ∧ t.disk = s.disk) ∧
    (∀ kind, (∃ t, (opening.action b unpack).apply s = (.error (.noMember kind "get"), t)) ↔
      s.disk.unreadable = none ∧
        ∃ items, b.format.decode bytes unpack = .ok items ∧ strayKind? items = some kind) := by
  have hloads := opening.loads unpack happlies hfile
  refine ⟨fun t ht => ?_, ⟨fun ⟨t, ht⟩ => ?_, fun ⟨readable, items, decoded, objects⟩ => ?_⟩,
    fun e t he => ?_, fun kind => ⟨fun ⟨t, ht⟩ => ?_, fun ⟨readable, items, decoded, stray⟩ => ?_⟩⟩
  · obtain ⟨-, items, given, decoded, -, members, rfl⟩ := (ht ▸ hloads).eq_ok
    exact loadedFrom_loaded decoded members s
  · obtain ⟨readable, items, given, decoded, objects, -, -⟩ := (ht ▸ hloads).eq_ok
    exact ⟨readable, items, decoded, objects⟩
  · exact hloads.exists_eq_ok readable decoded objects
  · obtain ⟨hcategory, supply, rfl⟩ := (he ▸ hloads).eq_error
    exact ⟨hcategory, rfl, rfl, rfl⟩
  · exact (ht ▸ hloads).eq_noMember
  · exact hloads.exists_eq_noMember readable decoded stray

/-- A file of queries that is edited by hand. -/
def edited : Backing := ⟨⟨"/", ["data", "queries.json"]⟩, .json⟩

/-- A disk with the file. -/
def holding (bytes : List UInt8) : State :=
  { blank with disk := blank.disk.put edited.path bytes }

/-- The bytes of a file with these objects. -/
def written (items : List Value) : List UInt8 :=
  Utf8.encode (Json.render .indented (.array items))

theorem decode_written {items : List Value} (hdata : ∀ v ∈ items, v.IsData Format.json.Carries)
    (hwritable : Json.unwritable? (.array items) = none) :
    edited.format.decode (written items) = .ok items := by
  have hencode : Format.json.encode (.array items) = .ok (written items) := by
    rw [Format.encode, Json.write?, hwritable]
    rfl
  exact Format.decode_encode_json hdata hencode

/-- A query that has a name and nothing else. -/
def named : Members := [("name", .str "A")]

theorem decode_named : edited.format.decode (written [.record named]) = .ok [.record named] :=
  decode_written (List.forall_mem_singleton.mpr
    (.object (by decide) (List.forall_mem_singleton.mpr (.str "A")))) rfl

theorem Opening.outcome_named :
    let bytes := written [.record named]
    (holding bytes).disk.file? edited.path = some bytes ∧
      (Opening.first true).Applies edited (holding bytes) ∧
      ∃ t, ((Opening.first true).action edited .standard).apply (holding bytes) = (.ok (), t) ∧
        LoadedFrom edited .standard bytes (holding bytes) t := by
  intro bytes
  have hfile : (holding bytes).disk.file? edited.path = some bytes := rfl
  have houtcome := Opening.outcome .standard (.first true) hfile trivial
  obtain ⟨t, ht⟩ := houtcome.2.1.mpr ⟨rfl, _, decode_named, rfl⟩
  exact ⟨hfile, trivial, t, ht, houtcome.1 t ht⟩

/-- A list of one number is no list of queries. The file can be read and decoded, so the failure is
none of the store. -/
theorem not_outcome_number :
    let s := holding (Utf8.encode "[1]")
    s.disk.file? edited.path = some (Utf8.encode "[1]") ∧
      ∃ t, (openFile edited true).apply s = (.error (.noMember "int" "get"), t) ∧
        (Error.noMember "int" "get").category ≠ .storage ∧
        (Error.noMember "int" "get").category ≠ .serialization := by
  intro s
  have hfile : s.disk.file? edited.path = some (Utf8.encode "[1]") := rfl
  have hdecode : edited.format.decode (Utf8.encode "[1]") = .ok [.int 1] := by
    with_unfolding_all rfl
  have hloads := (Opening.first true).loads .standard trivial hfile
  obtain ⟨t, ht⟩ := hloads.exists_eq_noMember rfl hdecode rfl
  exact ⟨hfile, t, ht, by decide, by decide⟩

end Store

end DocView
