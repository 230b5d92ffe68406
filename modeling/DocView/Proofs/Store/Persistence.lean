import DocView.Proofs.Store.Reachable
import DocView.Proofs.Store.Record

/-!
# What is in the file

A store on disk keeps its records twice, in memory and in its file, and nothing compares the two
before the next time the store is opened. That they agree is an invariant of everything that can
happen to a store, failures included, as long as nobody else writes to the file. It has two sides.
Records are written before they are kept, so the file holds their flat forms. And the flat forms
determine them, because the records are sound.

How values are written and read is left open here: all that matters is that the records with which
the store is used come back from their encoding. Then what is in memory can be found from the
file alone.

## Main definitions

* `Format.Recovers` - records whose flat forms come back from their encoding
* `Store.Mirrors` - a store whose file holds its records

## Main results

* `Store.Proposes.wellFormed` - no operation proposes records that are not well formed
* `Store.Mirrors.run`, `Store.Reaches.mirrors` - the file goes on holding the records
* `Store.file_mirrors_records` - what is read from the file is what is in memory
-/

namespace DocView

/-- Records whose flat forms come back from their encoding. -/
def Format.Recovers (format : Format) (records : List SavedQuery) : Prop :=
  ∀ bytes, format.encode (Store.exported records) = .ok bytes →
    format.decode bytes = .ok (records.map SavedQuery.toValue)

theorem Format.recovers_nil (format : Format) : format.Recovers [] := by
  intro bytes h
  cases format with
  | json =>
    obtain rfl : [91, 93] = bytes := Except.ok.inj h
    rfl
  | messagePack =>
    obtain rfl : [144] = bytes := Except.ok.inj h
    with_unfolding_all rfl

/-- A single reading back is enough: the bytes are determined by the records. -/
theorem Format.recovers_of_decode {format : Format} {records : List SavedQuery}
    {bytes : List UInt8} (hencode : format.encode (Store.exported records) = .ok bytes)
    (hdecode : format.decode bytes = .ok (records.map SavedQuery.toValue)) :
    format.Recovers records := by
  intro written h
  obtain rfl := Except.ok.inj (hencode.symm.trans h)
  exact hdecode

namespace Store

variable {b : Backing} {s t : State} {op : Operation}

/-! ### Records that are proposed -/

theorem Proposes.wellFormed {records : List SavedQuery} (h : Proposes s op records)
    (hs : WellFormed s.records) : WellFormed records := by
  cases h with
  | @create data attributes id now given unused id_ne now_ne =>
    have hnow : (Value.str now).truthy = true := bne_iff_ne.mpr now_ne
    rw [← put_of_notMem unused]
    exact hs.put ⟨id_ne, hnow, hnow, notMem_reserved_given given⟩
  | @update id data old members now found given now_ne =>
    have hold := hs.sound old (mem_of_lookUp found)
    refine hs.put ⟨hold.id_ne, hold.createdAt, bne_iff_ne.mpr now_ne, ?_⟩
    intro name hname
    rcases Members.mem_names_overlay.mp hname with hname | hname
    · exact hold.attributes name hname
    · exact notMem_reserved_given given name hname
  | delete found => exact hs.filter _
  | importAll checked => exact wellFormed_collect (sound_of_records checked _)

/-! ### Reading back -/

/-- Sound records come back from their flat forms, and only the clock is read for it. -/
theorem loadRecords_map_toValue {records : List SavedQuery} (h : ∀ q ∈ records, q.Sound)
    (s : State) : ∃ supply, (loadRecords (records.map SavedQuery.toValue)).apply s
      = (.ok records, { s with supply := supply }) := by
  induction records generalizing s with
  | nil => exact ⟨s.supply, rfl⟩
  | cons q rest ih =>
    obtain ⟨hq, hrest⟩ := List.forall_mem_cons.mp h
    obtain ⟨supply, hload⟩ := ih hrest { s with supply := s.supply.now.2 }
    refine ⟨supply, ?_⟩
    have hdraw : (Action.draw (SavedQuery.ofMembers q.toMembers)).apply s
        = (.ok q, { s with supply := s.supply.now.2 }) := by
      rw [Action.apply_draw, SavedQuery.ofMembers_toMembers hq]
    show (Action.draw (SavedQuery.ofMembers q.toMembers) >>= fun q => do
      let qs ← loadRecords (rest.map SavedQuery.toValue)
      return q :: qs).apply s = _
    rw [Action.apply_bind_ok hdraw, Action.apply_bind_ok hload]
    rfl

/-! ### The invariant -/

/-- A store whose file holds its records. -/
structure Mirrors (b : Backing) (s : State) : Prop where
  /-- The file is the file of the store. -/
  backing : s.backing = some b
  /-- The records are well formed. -/
  wellFormed : WellFormed s.records
  /-- The file holds their flat forms. -/
  file : ∃ bytes, s.disk.file? b.path = some bytes ∧
    b.format.decode bytes = .ok (s.records.map SavedQuery.toValue)

/-- Records that the store reads from its file are the ones that it has. -/
theorem Mirrors.collect_loaded (h : Mirrors b s) {bytes : List UInt8} {items : List Value}
    {records : List SavedQuery} {supply : Supply} (readable : s.disk.read b.path = .ok bytes)
    (decoded : b.format.decode bytes = .ok items)
    (loaded : (loadRecords items).apply s = (.ok records, { s with supply := supply })) :
    collect records = s.records := by
  obtain ⟨held, hfile, hdecode⟩ := h.file
  obtain rfl := Option.some.inj (hfile.symm.trans (Disk.read_eq_ok_iff.mp readable).2)
  obtain rfl := Except.ok.inj (hdecode.symm.trans decoded)
  obtain ⟨_, hload⟩ := loadRecords_map_toValue h.wellFormed.sound s
  obtain rfl := Except.ok.inj (congrArg Prod.fst (hload.symm.trans loaded))
  exact collect_eq_self h.wellFormed.nodup

/-- **An operation leaves the records in the file**, whether it succeeds or not. -/
theorem Mirrors.run (h : Mirrors b s) (op : Operation)
    (fitting : b.format.Recovers (op.run s).2.records) : Mirrors b (op.run s).2 := by
  obtain ⟨bytes, hfile, hdecode⟩ := h.file
  have hends := run_ends h.backing op
  generalize op.run s = o at hends fitting ⊢
  cases hends with
  | refused => exact ⟨h.backing, h.wellFormed, bytes, hfile, hdecode⟩
  | unwritten _ failed =>
    have hsame := (Disk.replace_error failed).1 b.path (Disk.draft_ne b.path).symm
    exact ⟨h.backing, h.wellFormed, bytes, hsame.trans hfile, hdecode⟩
  | written proposed encoded replaced =>
    exact ⟨h.backing, proposed.wellFormed h.wellFormed, _, (Disk.replace_ok replaced).1,
      fitting _ encoded⟩
  | reloaded _ readable decoded loaded =>
    rw [h.collect_loaded readable decoded loaded]
    exact ⟨h.backing, h.wellFormed, bytes, hfile, hdecode⟩

/-- Others who leave the file alone. -/
def LeavesFile (b : Backing) (d d' : Disk) : Prop := d'.file? b.path = d.file? b.path

/-- **The file goes on holding the records.** -/
theorem Reaches.mirrors (h : Reaches (LeavesFile b) b.format.Recovers s t) (hs : Mirrors b s) :
    Mirrors b t := by
  induction h with
  | start => exact hs
  | operation op _ fitting ih => exact ih.run op fitting
  | disturbance _ allowed ih =>
    obtain ⟨bytes, hfile, hdecode⟩ := ih.file
    exact ⟨ih.backing, ih.wellFormed, bytes, Eq.trans allowed hfile, hdecode⟩

/-- A file that opening has created holds no records, and there are none. -/
theorem mirrors_of_openFile {createIfMissing : Bool} (hmissing : s.disk.has b.path = false)
    (hopen : (openFile b createIfMissing).apply s = (.ok (), t)) : Mirrors b t := by
  obtain ⟨disk, hdisk, bytes', items, records, supply, readable, decoded, loaded, rfl⟩ :=
    openFile_eq_ok hopen
  rcases hdisk with ⟨hfound, -⟩ | ⟨-, bytes, encoded, replaced⟩
  · rw [hmissing] at hfound
    cases hfound
  · have hfile := (Disk.replace_ok replaced).1
    have hdecode := b.format.recovers_nil bytes encoded
    obtain rfl := Option.some.inj (hfile.symm.trans (Disk.read_eq_ok_iff.mp readable).2)
    obtain rfl := Except.ok.inj (hdecode.symm.trans decoded)
    obtain rfl : [] = records := Except.ok.inj (congrArg Prod.fst loaded)
    exact ⟨rfl, wellFormed_nil, bytes, hfile, hdecode⟩

/-! ### Reading the file again -/

/-- What the file holds is read as the records that it mirrors, by whomever. -/
theorem Mirrors.read (h : Mirrors b s) (hreadable : s.disk.unreadable = none)
    (hdisk : t.disk = s.disk) : ∃ bytes items supply, t.disk.read b.path = .ok bytes ∧
      b.format.decode bytes = .ok items ∧
      (loadRecords items).apply t = (.ok s.records, { t with supply := supply }) := by
  obtain ⟨bytes, hfile, hdecode⟩ := h.file
  obtain ⟨supply, hload⟩ := loadRecords_map_toValue h.wellFormed.sound t
  exact ⟨bytes, _, supply, hdisk ▸ Disk.read_eq_ok_iff.mpr ⟨hreadable, hfile⟩, hdecode, hload⟩

/-- Reading the file again leaves the records and the disk as they are. -/
theorem Mirrors.run_reload (h : Mirrors b s) :
    (Operation.reload.run s).2.records = s.records ∧ (Operation.reload.run s).2.disk = s.disk := by
  have hends := run_ends h.backing .reload
  generalize Operation.reload.run s = o at hends ⊢
  cases hends with
  | refused => exact ⟨rfl, rfl⟩
  | unwritten proposed => cases proposed
  | written proposed => cases proposed
  | reloaded _ readable decoded loaded =>
    exact ⟨h.collect_loaded readable decoded loaded, rfl⟩

/-- Reading the file again succeeds if the file can be read. -/
theorem Mirrors.run_reload_ok (h : Mirrors b s) (hreadable : s.disk.unreadable = none) :
    (Operation.reload.run s).1 = .ok () := by
  obtain ⟨bytes, items, supply, hread, hdecode, hload⟩ := h.read hreadable rfl
  rw [Store.run_reload h.backing, Action.outcome, load_apply hread hdecode hload]
  rfl

/-- A store that is opened on the file has the same records. -/
theorem Mirrors.openFile (h : Mirrors b s) (hreadable : s.disk.unreadable = none)
    (createIfMissing : Bool) (hdisk : t.disk = s.disk) :
    ∃ supply, (Store.openFile b createIfMissing).apply t
      = (.ok (), ⟨s.records, some b, supply, s.disk⟩) := by
  obtain ⟨bytes, hfile, -⟩ := h.file
  have hhas : t.disk.has b.path = true := by
    rw [hdisk, Disk.has, hfile]
    rfl
  obtain ⟨bytes, items, supply, hread, hdecode, hload⟩ := h.read hreadable hdisk
  refine ⟨supply, ?_⟩
  rw [openFile_apply hhas hread hdecode hload, collect_eq_self h.wellFormed.nodup, hdisk]

/-- **The file mirrors the records.** Let opening a store create its file, let operations be run
on the store, whether they succeed or not, and let others do to the disk whatever they like, except
touch the file. All along, let the records be such as come back from their encoding. Then the file
holds the flat forms of the records, in order, and records read from them are the records of the
store. Reading the file again changes neither the records nor the disk, and if the disk can be
read, it succeeds, and so does opening another store on the file, which then has the same
records. -/
theorem file_mirrors_records {createIfMissing : Bool} {s₀ s₁ : State}
    (hmissing : s₀.disk.has b.path = false)
    (hopen : (openFile b createIfMissing).apply s₀ = (.ok (), s₁))
    (hreach : Reaches (LeavesFile b) b.format.Recovers s₁ s) :
    (∃ bytes, s.disk.file? b.path = some bytes ∧
      b.format.decode bytes = .ok (s.records.map SavedQuery.toValue) ∧
      ∀ u, ((loadRecords (s.records.map SavedQuery.toValue)).apply u).1 = .ok s.records) ∧
    ((Operation.reload.run s).2.records = s.records ∧
      (Operation.reload.run s).2.disk = s.disk ∧
      (s.disk.unreadable = none → (Operation.reload.run s).1 = .ok ())) ∧
    (s.disk.unreadable = none → ∀ createIfMissing u, u.disk = s.disk →
      ∃ supply, (openFile b createIfMissing).apply u
        = (.ok (), ⟨s.records, some b, supply, s.disk⟩)) := by
  have hmirrors := hreach.mirrors (mirrors_of_openFile hmissing hopen)
  obtain ⟨hrecords, hdisk⟩ := hmirrors.run_reload
  refine ⟨?_, ⟨hrecords, hdisk, hmirrors.run_reload_ok⟩, ?_⟩
  · obtain ⟨bytes, hfile, hdecode⟩ := hmirrors.file
    refine ⟨bytes, hfile, hdecode, fun u => ?_⟩
    obtain ⟨supply, hload⟩ := loadRecords_map_toValue hmirrors.wellFormed.sound u
    rw [hload]
  · exact fun hreadable createIfMissing u hu => hmirrors.openFile hreadable createIfMissing hu

/-! ### A run -/

/-- A file in the compact format. -/
def archive : Backing := ⟨⟨"/", ["data", "queries"]⟩, .messagePack⟩

/-- A directory without the file. -/
def bare : State := ⟨[], none, .regular 0 1000, .empty ⟨"/", ["data"]⟩⟩

/-- The file has been created. -/
def opened : State := ((openFile archive true).apply bare).2

/-- A query has been imported. -/
def imported : State := (Operation.run (.importAll (.array [.record [("id", .str "a"),
  ("name", .str "A"), ("createdAt", .str "t")]])) opened).2

/-- It has been renamed. -/
def renamed : State :=
  (Operation.run (.update (.str "a") (.record [("name", .str "B")])) imported).2

/-- The disk has run full. -/
def exhausted : State :=
  { renamed with disk := { renamed.disk with failure := some ⟨.sync, "No space left on device"⟩ } }

/-- It could not be deleted. -/
def refused : State := (Operation.run (.delete (.str "a")) exhausted).2

set_option maxRecDepth 20000 in
/-- A query is imported and renamed, and then it cannot be deleted, because the disk is full. -/
theorem file_mirrors_records_refused :
    bare.disk.has archive.path = false ∧ (openFile archive true).apply bare = (.ok (), opened) ∧
      Reaches (LeavesFile archive) archive.format.Recovers opened refused ∧
      refused.records
        = [⟨"a", .str "t", .str "1970-01-01T00:00:00.001Z", [("name", .str "B")]⟩] ∧
      ∃ bytes, refused.disk.file? archive.path = some bytes ∧
        archive.format.decode bytes = .ok (refused.records.map SavedQuery.toValue) := by
  let before : SavedQuery := ⟨"a", .str "t", .str "t", [("name", .str "A")]⟩
  let after : SavedQuery :=
    ⟨"a", .str "t", .str "1970-01-01T00:00:00.001Z", [("name", .str "B")]⟩
  have hopen : (openFile archive true).apply bare = (.ok (), opened) := by with_unfolding_all rfl
  have himported : imported.records = [before] := by with_unfolding_all rfl
  have hrenamed : renamed.records = [after] := by with_unfolding_all rfl
  have hrefused : refused.records = [after] := by with_unfolding_all rfl
  have hbefore : archive.format.Recovers [before] :=
    @Format.recovers_of_decode .messagePack [before] [145, 132, 162, 105, 100, 161, 97, 164, 110,
      97, 109, 101, 161, 65, 169, 99, 114, 101, 97, 116, 101, 100, 65, 116, 161, 116, 169, 117,
      112, 100, 97, 116, 101, 100, 65, 116, 161, 116]
      rfl (by with_unfolding_all rfl)
  have hafter : archive.format.Recovers [after] :=
    @Format.recovers_of_decode .messagePack [after] [145, 132, 162, 105, 100, 161, 97, 164, 110,
      97, 109, 101, 161, 66, 169, 99, 114, 101, 97, 116, 101, 100, 65, 116, 161, 116, 169, 117,
      112, 100, 97, 116, 101, 100, 65, 116, 184, 49, 57, 55, 48, 45, 48, 49, 45, 48, 49, 84, 48,
      48, 58, 48, 48, 58, 48, 48, 46, 48, 48, 49, 90]
      rfl (by with_unfolding_all rfl)
  have hreach : Reaches (LeavesFile archive) archive.format.Recovers opened refused := by
    refine .operation _ (.disturbance (.operation _ (.operation _ .start ?_) ?_) rfl) ?_
    · exact himported.symm ▸ hbefore
    · exact hrenamed.symm ▸ hafter
    · exact hrefused.symm ▸ hafter
  obtain ⟨⟨bytes, hfile, hdecode, -⟩, -⟩ := file_mirrors_records rfl hopen hreach
  exact ⟨rfl, hopen, hreach, hrefused, bytes, hfile, hdecode⟩

end Store

end DocView
