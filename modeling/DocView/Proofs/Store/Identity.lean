import DocView.Proofs.Store.Loading

/-!
# Identifiers across loads

What a store lists is found by its identifier, and whoever has an identifier from the list expects
it to be good for as long as nobody changes the file. An object in the file that has an identifier
keeps it, as a text, each time the file is loaded, and the order of the file is the order of the
list. Two objects with one identifier are one record each time. So a file in which every object has
an identifier lists the same identifiers whenever it is loaded, by whatever store.

An object without one gets an identifier from the generator when it is loaded, and that is not
written back. The next load takes another one. As long as the generator does not hand out what it
has handed out before, nor what is written in the file, the first identifier is in no list from
then on.

Having an identifier is more than having a member of that name: one that is null, false, zero or
empty is none.

## Main definitions

* `Store.writtenId?`, `Store.writtenIds` - the identifiers that are in a file
* `Store.FileHolds` - the objects in a file
* `Store.RestoredFrom` - the records that a load makes of them

## Main results

* `Store.ids_of_second_load` - the identifiers after a file was loaded twice
-/

namespace DocView.Store

variable {before after : Supply} {given : List Members} {records qs : List SavedQuery}
  {b : Backing} {unpack : Unpacker} {s t u : State} {id : String}

/-! ### Identifiers in a file -/

/-- The identifier that is written in an object, as a text. -/
def writtenId? (members : Members) : Option String :=
  if (Value.member members "id").truthy then some (Value.member members "id").display else none

/-- The identifiers that are written in the objects of a file. -/
def writtenIds (given : List Members) : List String := given.filterMap writtenId?

/-- A record has the identifier that is written in its object, or one from the generator. -/
theorem Restored.id_cases {members : Members} {q : SavedQuery}
    (h : Restored before after members q) :
    writtenId? members = some q.id ∨ writtenId? members = none ∧ before.Issues after q.id := by
  have hid := h.id
  unfold writtenId?
  split at hid
  next htruthy => exact .inl (by rw [if_pos htruthy, hid])
  next htruthy => exact .inr ⟨if_neg htruthy, hid⟩

theorem mem_ids_cases (h : List.Forall₂ (Restored before after) given qs) (hid : id ∈ ids qs) :
    id ∈ writtenIds given ∨ before.Issues after id := by
  induction h with
  | nil => cases hid
  | @cons members q given qs hq _ ih =>
    rcases List.mem_cons.mp hid with rfl | hid
    · rcases hq.id_cases with hwritten | ⟨-, hissued⟩
      · exact .inl (List.mem_filterMap.mpr ⟨members, List.mem_cons_self, hwritten⟩)
      · exact .inr hissued
    · refine (ih hid).imp_left fun hmem => ?_
      obtain ⟨m, hm, hwritten⟩ := List.mem_filterMap.mp hmem
      exact List.mem_filterMap.mpr ⟨m, List.mem_cons_of_mem members hm, hwritten⟩

/-- If every object has an identifier, the records have these and no others. -/
theorem ids_eq_writtenIds (h : List.Forall₂ (Restored before after) given qs)
    (hall : ∀ members ∈ given, writtenId? members ≠ none) : ids qs = writtenIds given := by
  induction h with
  | nil => rfl
  | @cons members q given qs hq _ ih =>
    obtain ⟨hfirst, hrest⟩ := List.forall_mem_cons.mp hall
    rcases hq.id_cases with hwritten | ⟨hnone, -⟩
    · rw [writtenIds, List.filterMap_cons_some hwritten]
      exact congrArg (q.id :: ·) (ih hrest)
    · exact absurd hnone hfirst

/-- An object without an identifier makes a record with one from the generator. -/
theorem exists_issued (h : List.Forall₂ (Restored before after) given qs) {members : Members}
    (hmem : members ∈ given) (hnone : writtenId? members = none) :
    ∃ id ∈ ids qs, before.Issues after id := by
  induction h with
  | nil => cases hmem
  | @cons first q given qs hq _ ih =>
    rcases List.mem_cons.mp hmem with rfl | hmem
    · rcases hq.id_cases with hwritten | ⟨-, hissued⟩
      · cases hnone.symm.trans hwritten
      · exact ⟨q.id, List.mem_cons_self, hissued⟩
    · obtain ⟨id, hid, hissued⟩ := ih hmem
      exact ⟨id, List.mem_cons_of_mem q.id hid, hissued⟩

/-! ### Identifiers in a list -/

theorem mem_ids_of_collected (h : Collected qs records) : id ∈ ids records ↔ id ∈ ids qs := by
  rw [h.ids, List.mem_eraseDups]

theorem lookUp_of_mem (h : id ∈ ids records) :
    ∃ q ∈ records, q.id = id ∧ lookUp records (.str id) = .ok q := by
  obtain ⟨q, hfind⟩ : ∃ q, find? records id = some q := by
    obtain ⟨q, hq, rfl⟩ := List.mem_map.mp h
    exact Option.isSome_iff_exists.mp (List.find?_isSome.mpr ⟨q, hq, beq_self_eq_true q.id⟩)
  have hid : q.id = id := by simpa using List.find?_some hfind
  refine ⟨q, List.mem_of_find?_eq_some hfind, hid, ?_⟩
  simp only [lookUp, Document.unhashable?, hfind]

theorem lookUp_of_notMem (h : id ∉ ids records) :
    lookUp records (.str id) = .error (.queryNotFound id) := by
  have hfind : find? records id = none := by
    refine List.find?_eq_none.mpr fun q hq hid => h ?_
    exact List.mem_map.mpr ⟨q, hq, by simpa using hid⟩
  simp only [lookUp, Document.unhashable?, hfind]

/-! ### Two loads -/

/-- The objects in the file of a store. -/
def FileHolds (b : Backing) (unpack : Unpacker) (d : Disk) (given : List Members) : Prop :=
  ∃ bytes items, d.file? b.path = some bytes ∧ b.format.decode bytes unpack = .ok items ∧
    items.mapM Value.members? = .ok given

theorem FileHolds.unique {d : Disk} {given' : List Members} (h : FileHolds b unpack d given)
    (h' : FileHolds b unpack d given') : given = given' := by
  obtain ⟨bytes, items, hbytes, hitems, hgiven⟩ := h
  obtain ⟨bytes', items', hbytes', hitems', hgiven'⟩ := h'
  cases hbytes.symm.trans hbytes'
  cases hitems.symm.trans hitems'
  exact Except.ok.inj (hgiven.symm.trans hgiven')

/-- Records that were restored from objects between two supplies, and collected. -/
def RestoredFrom (before after : Supply) (given : List Members) (records : List SavedQuery) :
    Prop :=
  ∃ qs, List.Forall₂ (Restored before after) given qs ∧ Collected qs records

theorem restoredFrom_loaded (b : Backing) (given : List Members) (s : State) :
    RestoredFrom s.supply (loaded b given s).supply given (loaded b given s).records :=
  ⟨_, restored_recordsOf given s.supply, collected_collect _⟩

/-- What a store holds that was opened on a file. -/
theorem fileHolds_of_openFile {createIfMissing : Bool}
    (hopen : (openFile b createIfMissing unpack).apply s = (.ok (), t)) :
    ∃ given, FileHolds b unpack t.disk given ∧ RestoredFrom s.supply t.supply given t.records := by
  obtain ⟨disk, -, bytes, items, records, supply, readable, decoded, hrecords, rfl⟩ :=
    openFile_eq_ok hopen
  rcases mapM_members?_cases items with ⟨-, given, hgiven⟩ | ⟨kind, -, hstray⟩
  · cases hrecords.symm.trans (loadRecords_of_members hgiven { s with disk := disk })
    exact ⟨given, ⟨bytes, items, (Disk.read_eq_ok_iff.mp readable).2, decoded, hgiven⟩,
      restoredFrom_loaded b given s⟩
  · obtain ⟨_, hfail⟩ := loadRecords_of_stray hstray { s with disk := disk }
    cases hrecords.symm.trans hfail

/-- A file that holds objects is loaded, if it can be read. -/
theorem FileHolds.load (h : FileHolds b unpack u.disk given) (opening : Opening)
    (happlies : opening.Applies b u) (hreadable : u.disk.unreadable = none) :
    (opening.action b unpack).apply u = (.ok (), loaded b given u) := by
  obtain ⟨bytes, items, hfile, decoded, hgiven⟩ := h
  have hobjects : strayKind? items = none := by
    rcases mapM_members?_cases items with ⟨hnone, -⟩ | ⟨kind, -, hstray⟩
    · exact hnone
    · cases hgiven.symm.trans hstray
  have hloads := opening.loads unpack happlies hfile
  obtain ⟨v, hv⟩ := hloads.exists_eq_ok hreadable decoded hobjects
  obtain ⟨-, items', given', decoded', -, hgiven', rfl⟩ := (hv ▸ hloads).eq_ok
  cases decoded.symm.trans decoded'
  cases hgiven.symm.trans hgiven'
  exact hv

theorem again_applies_loaded (b : Backing) (given : List Members) (s : State) :
    Opening.again.Applies b (loaded b given s) := rfl

/-- A store that is opened on a file that holds objects can read it again. -/
theorem FileHolds.open_then_reload (h : FileHolds b unpack s.disk given)
    (hreadable : s.disk.unreadable = none) (createIfMissing : Bool) :
    (openFile b createIfMissing unpack).apply s = (.ok (), loaded b given s) ∧
      (reload unpack).apply (loaded b given s) = (.ok (), loaded b given (loaded b given s)) := by
  have hholds : FileHolds b unpack (loaded b given s).disk given := h
  exact ⟨h.load (.first createIfMissing) trivial hreadable,
    hholds.load .again (again_applies_loaded b given s) hreadable⟩

theorem RestoredFrom.ids_eq (h : RestoredFrom before after given records)
    (hall : ∀ members ∈ given, writtenId? members ≠ none) :
    ids records = (writtenIds given).eraseDups := by
  obtain ⟨qs, hqs, hcollected⟩ := h
  rw [hcollected.ids, ids_eq_writtenIds hqs hall]

/-- An identifier from the generator that comes neither from the file nor from the generator once
more is not in the list the next time. -/
theorem RestoredFrom.exists_stale {before' after' : Supply} {records' : List SavedQuery}
    (h : RestoredFrom before after given records)
    (h' : RestoredFrom before' after' given records')
    (hnone : ∃ members ∈ given, writtenId? members = none)
    (hfresh : ∀ id, before.Issues after id →
      id ∉ writtenIds given ∧ ¬ before'.Issues after' id) :
    ∃ id ∈ ids records, id ∉ ids records' := by
  obtain ⟨qs, hqs, hcollected⟩ := h
  obtain ⟨qs', hqs', hcollected'⟩ := h'
  obtain ⟨members, hmem, hnone⟩ := hnone
  obtain ⟨id, hid, hissued⟩ := exists_issued hqs hmem hnone
  obtain ⟨hwritten, hissued'⟩ := hfresh id hissued
  refine ⟨id, (mem_ids_of_collected hcollected).mpr hid, fun hid' => ?_⟩
  rcases mem_ids_cases hqs' ((mem_ids_of_collected hcollected').mp hid') with h | h
  · exact hwritten h
  · exact hissued' h

/-- **Identifiers across loads**, however MessagePack is read. Let a store be opened on a file, and
let the file be loaded once more as it is, by the store or by another one, from whatever supply.
That succeeds if the file can be read. If every object in the file has an identifier, the same
identifiers are listed in the same order, and each one finds its record. If one has none, and the
identifiers that the first load took from the generator are neither written in the file nor taken
once more, then the lists differ, and an identifier from the first one does not find anything. -/
theorem ids_of_second_load {createIfMissing : Bool}
    (hopen : (openFile b createIfMissing unpack).apply s = (.ok (), t)) (opening : Opening)
    (happlies : opening.Applies b u)
    (hfile : u.disk.file? b.path = t.disk.file? b.path) (hreadable : u.disk.unreadable = none) :
    ∃ given v, FileHolds b unpack t.disk given ∧ (opening.action b unpack).apply u = (.ok (), v) ∧
      ((∀ members ∈ given, writtenId? members ≠ none) →
        ids v.records = ids t.records ∧ ∀ id ∈ ids t.records,
          ∃ q ∈ v.records, q.id = id ∧ lookUp v.records (.str id) = .ok q) ∧
      ((∃ members ∈ given, writtenId? members = none) →
        (∀ id, s.supply.Issues t.supply id →
          id ∉ writtenIds given ∧ ¬ u.supply.Issues v.supply id) →
        ids v.records ≠ ids t.records ∧ ∃ id ∈ ids t.records,
          lookUp v.records (.str id) = .error (.queryNotFound id)) := by
  obtain ⟨given, hholds, hrestored⟩ := fileHolds_of_openFile hopen
  have hholds' : FileHolds b unpack u.disk given := by
    obtain ⟨bytes, items, hbytes, hitems⟩ := hholds
    exact ⟨bytes, items, hfile.trans hbytes, hitems⟩
  have hrestored' := restoredFrom_loaded b given u
  refine ⟨given, loaded b given u, hholds, hholds'.load opening happlies hreadable, fun hall => ?_,
    fun hnone hfresh => ?_⟩
  · have hids : ids (loaded b given u).records = ids t.records := by
      rw [hrestored'.ids_eq hall, hrestored.ids_eq hall]
    exact ⟨hids, fun id hid => lookUp_of_mem (hids ▸ hid)⟩
  · obtain ⟨id, hid, hstale⟩ := hrestored.exists_stale hrestored' hnone hfresh
    exact ⟨fun hids => hstale (hids ▸ hid), id, hid, lookUp_of_notMem hstale⟩

/-- A query whose identifier is a number. -/
def numbered : Members := [("id", .int 7)]

theorem fileHolds_numbered :
    FileHolds edited .standard (holding (written [.record numbered])).disk [numbered] := by
  have hdecode : edited.format.decode (written [.record numbered]) = .ok [.record numbered] :=
    decode_written (List.forall_mem_singleton.mpr
      (.object (by decide) (List.forall_mem_singleton.mpr (.int 7)))) rfl
  exact ⟨_, _, rfl, hdecode, rfl⟩

theorem fileHolds_named :
    FileHolds edited .standard (holding (written [.record named])).disk [named] :=
  ⟨_, _, rfl, decode_named, rfl⟩

/-- The file with a number for an identifier lists it as a text, twice. The file with a query that
has none lists two identifiers of the generator, one after the other. -/
theorem ids_of_second_load_edited :
    (∃ t v, (openFile edited true).apply (holding (written [.record numbered])) = (.ok (), t) ∧
      reload.apply t = (.ok (), v) ∧ ids v.records = ids t.records) ∧
    ∃ t v, (openFile edited true).apply (holding (written [.record named])) = (.ok (), t) ∧
      reload.apply t = (.ok (), v) ∧ ids v.records ≠ ids t.records := by
  constructor
  · obtain ⟨hopen, -⟩ := fileHolds_numbered.open_then_reload rfl true
    obtain ⟨given, v, hholds, hreload, hsame, -⟩ :=
      ids_of_second_load hopen .again (again_applies_loaded ..) rfl rfl
    obtain rfl := fileHolds_numbered.unique hholds
    have hall : ∀ members ∈ [numbered], writtenId? members ≠ none :=
      List.forall_mem_singleton.mpr (by decide)
    exact ⟨_, v, hopen, hreload, (hsame hall).1⟩
  · obtain ⟨hopen, hagain⟩ := fileHolds_named.open_then_reload rfl true
    obtain ⟨given, v, hholds, hreload, -, hdiffer⟩ :=
      ids_of_second_load hopen .again (again_applies_loaded ..) rfl rfl
    obtain rfl := fileHolds_named.unique hholds
    cases hreload.symm.trans hagain
    refine ⟨_, _, hopen, hreload, (hdiffer ⟨_, List.mem_cons_self, rfl⟩ ?_).1⟩
    rintro id ⟨n, -, hn, rfl⟩
    obtain rfl : n = 0 := Nat.lt_one_iff.mp hn
    refine ⟨List.not_mem_nil, ?_⟩
    rintro ⟨m, hlow, hhigh, hid⟩
    obtain rfl : m = 1 := Nat.le_antisymm (Nat.lt_succ_iff.mp hhigh) hlow
    have hdistinct : Supply.hexId 2 ≠ Supply.hexId 1 := by decide
    exact hdistinct hid

/-- A query that has a name and nothing else is found under its first identifier until the file is
read again. -/
theorem not_ids_of_second_load_named :
    ∃ t v, (openFile edited true).apply (holding (written [.record named])) = (.ok (), t) ∧
      reload.apply t = (.ok (), v) ∧ v.disk = t.disk ∧
      ids t.records = [Supply.hexId 1] ∧ ids v.records = [Supply.hexId 2] ∧
      ids v.records ≠ ids t.records ∧
      lookUp v.records (.str (Supply.hexId 1)) = .error (.queryNotFound (Supply.hexId 1)) := by
  obtain ⟨hopen, hreload⟩ := fileHolds_named.open_then_reload rfl true
  have hdistinct : Supply.hexId 2 ≠ Supply.hexId 1 := by decide
  refine ⟨_, _, hopen, hreload, rfl, rfl, rfl, ?_, lookUp_of_notMem ?_⟩
  · exact fun hids => hdistinct (List.cons.inj hids).1
  · exact fun hmem => hdistinct (List.mem_singleton.mp hmem).symm

end DocView.Store
