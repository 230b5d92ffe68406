import DocView.Proofs.Binary64.Place
import DocView.Proofs.Store.Identifier
import DocView.Proofs.Store.Identity
import Mathlib.Data.List.ReduceOption

/-!
# Importing records

An import puts other records in place of all. The list that it is given may hold several entries
with one identifier and entries with none, and an identifier may be a text or a number. What the
store holds afterwards can be said place by place: it has one record for each place at which an
identifier comes first or an entry has none, in the order of these places. The identifier belongs
to the place, and what the record holds is that of the last entry with the identifier.

For that, the identifiers that are made up have to be new and distinct. If the generator hands out
what is in the list already, or the same one twice, entries that have nothing to do with one another
become one record.

An entry *has no identifier* if it has no member of that name, or null there, or the empty text.
The check and the reader do not agree about this. The check asks whether there is anything but null
and the empty text, and looks at its text; the reader asks whether it counts, and zero and false do
not. So the texts `0` and `False` are checked, and then the records get other identifiers.

## Main definitions

* `Store.ReadsAsId` - the usual identifiers of entries
* `Store.filledIn` - identifiers, those that are missing made up
* `Store.firstPlaces` - the places that get a record
* `Store.KeptFrom` - the record that a place gets
* `Store.FreshFor` - a sequence whose next terms are new and distinct
* `Store.Uncounted` - identifiers about which the check and the reader differ

## Main results

* `Store.importAll_entries` - the records after an import
* `Store.importAll_checkedIds` - which records are kept under the identifiers that were checked
-/

namespace DocView.Store

/-! ### Identifiers of entries -/

/-- The identifiers that entries usually have, and how they read: null, which is also what an entry
without an identifier has there, texts, and positive numbers. -/
inductive ReadsAsId : Value → Option String → Prop
  | null : ReadsAsId .null none
  | empty : ReadsAsId (.str "") none
  | text {s : String} (ne_empty : s ≠ "") : ReadsAsId (.str s) (some s)
  | number {n : Nat} (pos : 0 < n) : ReadsAsId (.int n) (some (toString n))

theorem display_natCast (n : Nat) : (Value.int n).display = toString n := by
  show (if (n : Int) < 0 then "-" ++ toString n else toString n) = toString n
  exact if_neg (Int.not_lt.mpr (Int.natCast_nonneg n))

theorem writtenId?_of_readsAsId {members : Members} {key? : Option String}
    (h : ReadsAsId (Value.member members "id") key?) : writtenId? members = key? := by
  unfold writtenId?
  generalize Value.member members "id" = id at h
  cases h with
  | null => rfl
  | empty => rfl
  | text hne => exact if_pos (bne_iff_ne.mpr hne)
  | @number n hpos =>
    have htruthy : (Value.int n).truthy = true := bne_iff_ne.mpr (by omega)
    rw [if_pos htruthy, display_natCast]

/-! ### Filling in -/

section

/-- Identifiers, those that are missing taken from a sequence, from a number on. -/
def filledIn (fresh : Nat → String) : Nat → List (Option String) → List String
  | _, [] => []
  | n, some key :: rest => key :: filledIn fresh n rest
  | n, none :: rest => fresh n :: filledIn fresh (n + 1) rest

/-- The terms of a sequence, from a number on, that replace what is missing are distinct and not
there already. -/
structure FreshFor (fresh : Nat → String) (n : Nat) (keys : List (Option String)) : Prop where
  /-- No two of them are the same. -/
  distinct : ∀ i j, n ≤ i → i < j → j < n + keys.count none → fresh i ≠ fresh j
  /-- None of them is there already. -/
  unused : ∀ i, n ≤ i → i < n + keys.count none → some (fresh i) ∉ keys

/-- The places at which an identifier comes first, or is missing. -/
def firstPlaces (keys : List (Option String)) : List Nat :=
  (List.range keys.length).filter fun i => keys[i]?.join.all fun key => some key ∉ keys.take i

variable {fresh : Nat → String} {n : Nat} {keys : List (Option String)} {id : String}

theorem length_filledIn (fresh : Nat → String) (n : Nat) (keys : List (Option String)) :
    (filledIn fresh n keys).length = keys.length := by
  fun_induction filledIn fresh n keys with
  | case1 => rfl
  | case2 _ _ _ ih => exact congrArg (· + 1) ih
  | case3 _ _ ih => exact congrArg (· + 1) ih

/-- A missing identifier is replaced by the next one that has not been used for another. -/
theorem getElem?_filledIn (fresh : Nat → String) (n : Nat) (keys : List (Option String)) (i : Nat) :
    (filledIn fresh n keys)[i]?
      = keys[i]?.map fun key? => key?.getD (fresh (n + (keys.take i).count none)) := by
  fun_induction filledIn fresh n keys generalizing i with
  | case1 => rfl
  | case2 n key rest ih =>
    cases i with
    | zero => rfl
    | succ i => simpa using ih i
  | case3 n rest ih =>
    cases i with
    | zero => simp
    | succ i => simpa [Nat.add_assoc, Nat.add_comm 1] using ih i

theorem filledIn_append (fresh : Nat → String) (n : Nat) (keys more : List (Option String)) :
    filledIn fresh n (keys ++ more)
      = filledIn fresh n keys ++ filledIn fresh (n + keys.count none) more := by
  fun_induction filledIn fresh n keys with
  | case1 => simp
  | case2 n key rest ih => simpa [filledIn] using ih
  | case3 n rest ih => simpa [filledIn, Nat.add_assoc, Nat.add_comm 1] using ih

/-- Filling in one more identifier at the end. -/
theorem filledIn_concat (fresh : Nat → String) (n : Nat) (keys : List (Option String))
    (key? : Option String) : filledIn fresh n (keys ++ [key?])
      = filledIn fresh n keys ++ [key?.getD (fresh (n + keys.count none))] := by
  rw [filledIn_append]
  cases key? <;> rfl

theorem mem_filledIn : id ∈ filledIn fresh n keys ↔
    some id ∈ keys ∨ ∃ i, n ≤ i ∧ i < n + keys.count none ∧ fresh i = id := by
  fun_induction filledIn fresh n keys with
  | case1 => simp; omega
  | case2 n key rest ih => simp [ih, or_assoc]
  | case3 n rest ih =>
    have hsplit : (∃ i, n ≤ i ∧ i < n + (rest.count none + 1) ∧ fresh i = id) ↔
        fresh n = id ∨ ∃ i, n + 1 ≤ i ∧ i < n + 1 + rest.count none ∧ fresh i = id := by
      constructor
      · rintro ⟨i, hlow, hhigh, hi⟩
        rcases Nat.eq_or_lt_of_le hlow with rfl | hlt
        · exact .inl hi
        · exact .inr ⟨i, hlt, by omega, hi⟩
      · rintro (hfirst | ⟨i, hlow, hhigh, hi⟩)
        · exact ⟨n, le_rfl, by omega, hfirst⟩
        · exact ⟨i, by omega, by omega, hi⟩
    rw [List.count_cons_self, hsplit, List.mem_cons, ih, eq_comm (a := id), or_left_comm]
    simp

theorem FreshFor.of_append {more : List (Option String)} (h : FreshFor fresh n (keys ++ more)) :
    FreshFor fresh n keys := by
  have hcount : keys.count none ≤ (keys ++ more).count none := by
    rw [List.count_append]
    exact Nat.le_add_right _ _
  exact ⟨fun i j hi hij hj => h.distinct i j hi hij (by omega),
    fun i hi hlt hmem => h.unused i hi (by omega) (List.mem_append_left _ hmem)⟩

theorem firstPlaces_concat (keys : List (Option String)) (key? : Option String) :
    firstPlaces (keys ++ [key?])
      = firstPlaces keys ++ if key?.all (some · ∉ keys) then [keys.length] else [] := by
  have hbefore : ∀ i ∈ List.range keys.length,
      ((keys ++ [key?])[i]?.join.all fun key => some key ∉ (keys ++ [key?]).take i)
        = keys[i]?.join.all fun key => some key ∉ keys.take i := by
    intro i hi
    have hlt : i < keys.length := List.mem_range.mp hi
    rw [List.getElem?_append_left hlt, List.take_append_of_le_length hlt.le]
  have hlast : ((keys ++ [key?])[keys.length]?.join.all
      fun key => some key ∉ (keys ++ [key?]).take keys.length) = key?.all (some · ∉ keys) := by
    simp
  rw [firstPlaces, List.length_append, List.length_singleton, List.range_succ, List.filter_append,
    List.filter_congr hbefore, firstPlaces, List.filter_singleton, hlast, Bool.cond_eq_ite]

/-- An identifier is new among those before it if it is missing, or its text is. -/
theorem notMem_filledIn_iff {key? : Option String} (h : FreshFor fresh n (keys ++ [key?])) :
    key?.getD (fresh (n + keys.count none)) ∉ filledIn fresh n keys ↔
      key?.all (some · ∉ keys) = true := by
  cases key? with
  | none =>
    have hcount : (keys ++ [none]).count none = keys.count none + 1 := by simp
    simp only [Option.getD_none, Option.all_none, iff_true, mem_filledIn, not_or]
    constructor
    · exact fun hmem => h.unused _ (Nat.le_add_right _ _) (by omega) (List.mem_append_left _ hmem)
    · rintro ⟨i, hlow, hhigh, hi⟩
      exact h.distinct i _ hlow hhigh (by omega) hi
  | some key =>
    have hcount : (keys ++ [some key]).count none = keys.count none := by simp
    simp only [Option.getD_some, Option.all_some, mem_filledIn, decide_eq_true_eq, not_or]
    refine and_iff_left ?_
    rintro ⟨i, hlow, hhigh, rfl⟩
    exact h.unused i hlow (by omega) (List.mem_append_right _ (List.mem_singleton_self _))

theorem firstPlaces_filledIn (h : FreshFor fresh n keys) :
    List.Forall₂ (fun i id => (filledIn fresh n keys)[i]? = some id) (firstPlaces keys)
      (filledIn fresh n keys).eraseDups := by
  induction keys using List.reverseRecOn with
  | nil => exact .nil
  | append_singleton keys key? ih =>
    have hlength := length_filledIn fresh n keys
    have hnew := notMem_filledIn_iff h
    rw [firstPlaces_concat, filledIn_concat, List.eraseDups_append]
    generalize key?.getD (fresh (n + keys.count none)) = id at hnew ⊢
    have hbefore : List.Forall₂ (fun i id' => (filledIn fresh n keys ++ [id])[i]? = some id')
        (firstPlaces keys) (filledIn fresh n keys).eraseDups :=
      (ih h.of_append).imp fun i id' hi => by
        rw [List.getElem?_append_left (List.getElem?_eq_some_iff.mp hi).1, hi]
    refine List.rel_append hbefore ?_
    by_cases hmem : id ∈ filledIn fresh n keys
    · rw [if_neg fun hall => hnew.mpr hall hmem]
      simp [List.removeAll, hmem]
    · rw [if_pos (hnew.mp hmem)]
      have hone : [id].removeAll (filledIn fresh n keys) = [id] := by
        simpa [List.removeAll] using hmem
      rw [hone]
      exact .cons (by rw [List.getElem?_append_right hlength.le, hlength, Nat.sub_self]; rfl) .nil

/-! ### Places -/

theorem length_firstPlaces (keys : List (Option String)) :
    (firstPlaces keys).length = keys.reduceOption.eraseDups.length + keys.count none := by
  induction keys using List.reverseRecOn with
  | nil => rfl
  | append_singleton keys key? ih =>
    rw [firstPlaces_concat, List.length_append, ih, List.reduceOption_append, List.count_append,
      List.eraseDups_append, List.length_append]
    cases key? with
    | none => simp [List.removeAll]; omega
    | some key =>
      by_cases hmem : some key ∈ keys
      · simp [List.removeAll, hmem, List.reduceOption_mem_iff]
      · have hone : [key].eraseDups.length = 1 := rfl
        simp [List.removeAll, hmem, List.reduceOption_mem_iff, hone]; omega

variable {i k : Nat}

/-- What stands at a place is what was there, or the next term if nothing was. -/
theorem getElem?_filledIn_cases (h : (filledIn fresh n keys)[i]? = some id) :
    keys[i]? = some (some id) ∨
      keys[i]? = some none ∧ fresh (n + (keys.take i).count none) = id := by
  rw [getElem?_filledIn] at h
  obtain ⟨key?, hkey, hid⟩ := Option.map_eq_some_iff.mp h
  cases key? with
  | none => exact .inr ⟨hkey, hid⟩
  | some key =>
    obtain rfl : key = id := hid
    exact .inl hkey

theorem mem_drop_filledIn (h : some id ∈ keys.drop k) : id ∈ (filledIn fresh n keys).drop k := by
  obtain ⟨j, hj⟩ := List.mem_iff_getElem?.mp h
  rw [List.getElem?_drop] at hj
  refine List.mem_iff_getElem?.mpr ⟨j, ?_⟩
  rw [List.getElem?_drop, getElem?_filledIn, hj]
  rfl

theorem count_take_lt (hi : keys[i]? = some none) (hik : i < k) :
    (keys.take i).count none < (keys.take k).count none := by
  have hnext : (keys.take (i + 1)).count none = (keys.take i).count none + 1 := by
    rw [List.take_add_one, hi, List.count_append]
    rfl
  have hle : (keys.take (i + 1)).count none ≤ (keys.take k).count none :=
    (List.take_sublist_take_left hik).count_le none
  omega

theorem count_take_lt_count (hi : keys[i]? = some none) :
    (keys.take i).count none < keys.count none := by
  have h := count_take_lt hi (List.getElem?_eq_some_iff.mp hi).1
  rwa [List.take_length] at h

/-- Each missing identifier gets a term of its own. -/
theorem FreshFor.place_inj (h : FreshFor fresh n keys) (hi : keys[i]? = some none)
    (hk : keys[k]? = some none)
    (heq : fresh (n + (keys.take i).count none) = fresh (n + (keys.take k).count none)) :
    i = k := by
  have hbound {j : Nat} (hj : keys[j]? = some none) := count_take_lt_count hj
  rcases Nat.lt_trichotomy i k with hlt | rfl | hlt
  · have hcount := count_take_lt hi hlt
    exact absurd heq (h.distinct _ _ (by omega) (by omega) (by have := hbound hk; omega))
  · rfl
  · have hcount := count_take_lt hk hlt
    exact absurd heq.symm (h.distinct _ _ (by omega) (by omega) (by have := hbound hi; omega))

theorem FreshFor.ne_of_mem (h : FreshFor fresh n keys) (hi : keys[i]? = some none)
    (hid : some id ∈ keys) : fresh (n + (keys.take i).count none) ≠ id := by
  rintro rfl
  have hbound := count_take_lt_count hi
  exact h.unused _ (by omega) (by omega) hid

end

/-! ### What a place gets -/

section

variable {before after : Supply} {given : List Members} {keys : List (Option String)}
  {qs records : List SavedQuery} {fresh : Nat → String} {n : Nat}

/-- The record that a place of a list gets. -/
inductive KeptFrom (before after : Supply) (given : List Members) (keys : List (Option String)) :
    Nat → SavedQuery → Prop
  /-- An identifier that is given has the record of the last entry with it. -/
  | last {i k members q} (key : keys[i]? = some (some q.id)) (same : keys[k]? = some (some q.id))
    (later : some q.id ∉ keys.drop (k + 1)) (entry : given[k]? = some members)
    (restored : Restored before after members q) : KeptFrom before after given keys i q
  /-- An entry without an identifier has a record of its own under a fresh one. -/
  | fresh {i members q} (missing : keys[i]? = some none) (issued : before.Issues after q.id)
    (entry : given[i]? = some members) (restored : Restored before after members q) :
    KeptFrom before after given keys i q

theorem ids_recordsOf (given : List Members) (supply : Supply) :
    ids (recordsOf given supply).1
      = filledIn supply.ids supply.issued (given.map writtenId?) := by
  induction given generalizing supply with
  | nil => rfl
  | cons members rest ih =>
    show (SavedQuery.ofMembers members supply).1.id
      :: ids (recordsOf rest (SavedQuery.ofMembers members supply).2).1 = _
    rw [ih, List.map_cons, ofMembers_eq]
    by_cases htruthy : (Value.member members "id").truthy = true
    · have hkey : writtenId? members = some _ := if_pos htruthy
      simp only [hkey, if_pos htruthy]
      rfl
    · have hkey : writtenId? members = none := if_neg htruthy
      simp only [hkey, if_neg htruthy]
      rfl

/-- The record that was restored at a place. -/
theorem exists_restored_at {front back : List SavedQuery} {q : SavedQuery}
    (h : List.Forall₂ (Restored before after) given (front ++ q :: back)) :
    ∃ members, given[front.length]? = some members ∧ Restored before after members q := by
  have hdrop := List.forall₂_drop_append _ _ _ h
  generalize hrest : given.drop front.length = rest at hdrop
  cases hdrop with
  | @cons members _ others _ hq _ =>
    refine ⟨members, ?_, hq⟩
    have hhead := congrArg List.head? hrest
    rwa [List.head?_drop] at hhead

/-- **What each place gets**, if records are restored under the identifiers that were filled in, and
collected. -/
theorem forall₂_keptFrom (hrestored : List.Forall₂ (Restored before after) given qs)
    (hkeys : given.map writtenId? = keys) (hids : ids qs = filledIn fresh n keys)
    (hfresh : FreshFor fresh n keys) (hcollected : Collected qs records) :
    List.Forall₂ (KeptFrom before after given keys) (firstPlaces keys) records := by
  have hplaces : List.Forall₂ (fun i q => (ids qs)[i]? = some q.id) (firstPlaces keys) records := by
    have h := firstPlaces_filledIn hfresh
    rw [← hids, ← hcollected.ids] at h
    exact (List.forall₂_map_right_iff (f := SavedQuery.id)).mp h
  have hkept : ∀ q ∈ records, ∀ i, (ids qs)[i]? = some q.id →
      KeptFrom before after given keys i q := by
    intro q hq i hi
    obtain ⟨front, back, rfl, hback⟩ := hcollected.last q hq
    obtain ⟨members, hentry, hq⟩ := exists_restored_at hrestored
    have hk : (ids (front ++ q :: back))[front.length]? = some q.id := by simp [ids]
    have hlater : (ids (front ++ q :: back)).drop (front.length + 1) = ids back := by
      simp [ids, List.drop_append]
    rw [hids] at hi hk hlater
    rcases getElem?_filledIn_cases hi with hi | ⟨hi, hfirst⟩ <;>
      rcases getElem?_filledIn_cases hk with hk | ⟨hk, hlast⟩
    · refine .last hi hk (fun hmem => hback ?_) hentry hq
      exact hlater ▸ mem_drop_filledIn hmem
    · exact absurd hlast (hfresh.ne_of_mem hk (List.mem_of_getElem? hi))
    · exact absurd hfirst (hfresh.ne_of_mem hi (List.mem_of_getElem? hk))
    · obtain rfl := hfresh.place_inj hi hk (hfirst.trans hlast.symm)
      rcases hq.id_cases with hwritten | ⟨-, hissued⟩
      · rw [← hkeys, List.getElem?_map, hentry] at hk
        cases hwritten.symm.trans (Option.some.inj hk)
      · exact .fresh hi hissued hentry hq
  have hboth := (List.forall₂_and_left _ _).mpr ⟨hkept, hplaces.flip⟩
  exact hboth.flip.imp fun i q h => h.1 i h.2

end

section

variable {s : State} {data : Value} {given : List Members}

/-- An import of what is accepted succeeds, unless the records cannot be written. -/
theorem exists_run_importAll (hgiven : Argument.records data = .ok given)
    (hwrite : s.backing = none ∨
      ∀ e, ((Call.importAll data).run s).1 = .error e → ¬ e.IsWriteFailure) :
    ∃ t, (Call.importAll data).run s = (.ok (.count t.records.length), t) ∧
      t.records = collect (recordsOf given s.supply).1 ∧
      t.supply = (recordsOf given s.supply).2 := by
  rcases run_importAll hgiven s with ⟨disk, hrun⟩ | ⟨hbacked, e, failure, herror⟩
  · exact ⟨((Call.importAll data).run s).2, by rw [hrun], by rw [hrun], by rw [hrun]⟩
  · rcases hwrite with hmemory | hanswer
    · exact absurd hmemory hbacked
    · exact absurd failure (hanswer e herror)

/-- **Importing records.** Let the entries of a list be accepted, let their identifiers be missing,
texts or positive numbers, and let the next identifiers of the generator be distinct and not among
those. Unless the records cannot be written, the import answers how many records there are
afterwards. There is one for each place at which an identifier comes first or is missing, in this
order: one for each distinct identifier, and one under a fresh identifier for each entry without
any. What it holds is what the last entry with the identifier has, times included. A time that is
missing, or does not count, is made up. -/
theorem importAll_entries {keys : List (Option String)}
    (hgiven : Argument.records data = .ok given)
    (hkeys : List.Forall₂ (fun members key? => ReadsAsId (Value.member members "id") key?)
      given keys)
    (hfresh : FreshFor s.supply.ids s.supply.issued keys)
    (hwrite : s.backing = none ∨
      ∀ e, ((Call.importAll data).run s).1 = .error e → ¬ e.IsWriteFailure) :
    ∃ t, (Call.importAll data).run s = (.ok (.count t.records.length), t) ∧
      List.Forall₂ (KeptFrom s.supply t.supply given keys) (firstPlaces keys) t.records ∧
      (ids t.records).Nodup ∧ (∀ id, some id ∈ keys → id ∈ ids t.records) ∧
      t.records.length = keys.reduceOption.eraseDups.length + keys.count none := by
  obtain ⟨t, hrun, hrecords, hsupply⟩ := exists_run_importAll hgiven hwrite
  have hwritten : given.map writtenId? = keys := by
    have h := hkeys.imp fun _ _ => writtenId?_of_readsAsId
    exact List.forall₂_eq_eq_eq ▸ List.forall₂_map_left_iff.mpr h
  have hids : ids (recordsOf given s.supply).1
      = filledIn s.supply.ids s.supply.issued keys := hwritten ▸ ids_recordsOf given s.supply
  have hcollected : Collected (recordsOf given s.supply).1 t.records :=
    hrecords ▸ collected_collect _
  have hrestored : List.Forall₂ (Restored s.supply t.supply) given (recordsOf given s.supply).1 :=
    hsupply ▸ restored_recordsOf given s.supply
  have hkept := forall₂_keptFrom hrestored hwritten hids hfresh hcollected
  refine ⟨t, hrun, hkept, hcollected.nodup, fun id hid => ?_, ?_⟩
  · rw [hcollected.ids, hids, List.mem_eraseDups]
    exact mem_filledIn.mpr (.inl hid)
  · rw [← hkept.length_eq, length_firstPlaces]

/-- Entries whose identifiers are a number, missing, a text and empty. -/
def mixed : List Members :=
  [[("id", .int 7), ("name", .str "A")], [("name", .str "B")],
    [("id", .str "7"), ("name", .str "C")], [("id", .str ""), ("name", .str "D")]]

/-- Seven as a number and as a text are one record, at the first place and with the last name. The
two entries without identifiers are two records. -/
theorem importAll_entries_mixed :
    let t := ((Call.importAll (.array (mixed.map Value.record))).run blank).2
    t.records.length = 3 ∧ t.records.map SavedQuery.name = [.str "C", .str "B", .str "D"] := by
  intro t
  have hkeys : List.Forall₂ (fun members key? => ReadsAsId (Value.member members "id") key?)
      mixed [some "7", none, some "7", none] :=
    .cons (.number (n := 7) (by decide))
      (.cons .null (.cons (.text (by decide)) (.cons .empty .nil)))
  have hfresh : FreshFor blank.supply.ids 0 [some "7", none, some "7", none] := by
    refine ⟨fun i j _ hij hj => ?_, fun i _ hi => ?_⟩
    · obtain ⟨rfl, rfl⟩ : i = 0 ∧ j = 1 := by
        have hj : j < 2 := by simpa using hj
        omega
      decide
    · obtain rfl | rfl : i = 0 ∨ i = 1 := by
        have hi : i < 2 := by simpa using hi
        omega
      all_goals decide
  have hgiven : Argument.records (.array (mixed.map Value.record)) = .ok mixed := rfl
  obtain ⟨u, hrun, -, -, -, hlength⟩ :=
    importAll_entries (s := blank) hgiven hkeys hfresh (.inl rfl)
  obtain rfl : t = u := congrArg Prod.snd hrun
  exact ⟨hlength, rfl⟩

/-! ### Identifiers that were checked -/

/-- Values that are identifiers for the check and count as none for the reader. -/
def Uncounted (id : Value) : Prop := id = .int 0 ∨ id = .bool false ∨ id = .unset

theorem carriesId_of_ne {v : Value} (hnull : v ≠ .null) (hempty : v ≠ .str "") :
    Argument.carriesId v = true := by
  cases v with
  | null => exact absurd rfl hnull
  | str s => exact bne_iff_ne.mpr fun hs => hempty (congrArg Value.str hs)
  | _ => rfl

theorem Uncounted.truthy {v : Value} (h : Uncounted v) : v.truthy = false := by
  rcases h with rfl | rfl | rfl <;> rfl

theorem display_of_isZero {x : Binary64} (h : x.isZero = true) :
    (Value.float x).display = "0.0" ∨ (Value.float x).display = "-0.0" := by
  have hfinite : x.isFinite = true := (Bool.and_eq_true_iff.mp h).1
  show x.text = "0.0" ∨ x.text = "-0.0"
  rw [Binary64.text, Binary64.isNaN_of_isFinite hfinite, Binary64.isInfinite_of_isFinite hfinite, h]
  cases x.negative with
  | false => exact .inl rfl
  | true => exact .inr rfl

/-- Of the values that do not count, no others pass the check. -/
theorem uncounted_of_queryId {v : Value} {id : String} (htruthy : v.truthy = false)
    (hcarries : Argument.carriesId v = true)
    (haccepted : Argument.queryId (.str v.display) = .ok id) : Uncounted v := by
  -- The empty ones among the rest are refused for a dot, a quote or a bracket.
  cases v with
  | null => cases hcarries
  | unset => exact .inr (.inr rfl)
  | bool b => exact .inr (.inl (congrArg Value.bool htruthy))
  | int n => exact .inl (congrArg Value.int (by simpa [Value.truthy] using htruthy))
  | str s => cases htruthy.symm.trans hcarries
  | date d => cases htruthy
  | moment m => cases htruthy
  | float x =>
    rcases display_of_isZero (by simpa [Value.truthy] using htruthy) with h | h
    · rw [h] at haccepted
      cases haccepted
    · rw [h] at haccepted
      cases haccepted
  | bytes bs =>
    obtain rfl : bs = [] := by simpa [Value.truthy] using htruthy
    cases haccepted
  | list form items =>
    obtain rfl : items = [] := by simpa [Value.truthy] using htruthy
    cases form <;> cases haccepted
  | object form members =>
    obtain rfl : members = [] := by simpa [Value.truthy] using htruthy
    have hrefused : Argument.queryId (.str "\x7b\x7d") = .error (.idMalformed "\x7b\x7d") := rfl
    cases hrefused.symm.trans haccepted

/-- **Identifiers that were checked.** Let the entries of a list be accepted. Unless the records
cannot be written, the import succeeds, restores each entry, and keeps the last of the restored
records with one identifier. If the identifier of an entry is neither null nor the empty text, then
its text is what has been accepted, and the entry is restored under it, unless it is zero or false:
then it gets an identifier from the generator. -/
theorem importAll_checkedIds (hgiven : Argument.records data = .ok given)
    (hwrite : s.backing = none ∨
      ∀ e, ((Call.importAll data).run s).1 = .error e → ¬ e.IsWriteFailure) :
    ∃ t qs, (Call.importAll data).run s = (.ok (.count t.records.length), t) ∧
      Collected qs t.records ∧ List.Forall₂ (Restored s.supply t.supply) given qs ∧
      List.Forall₂ (fun members q =>
        let id := Value.member members "id"
        id ≠ .null → id ≠ .str "" → Argument.queryId (.str id.display) = .ok id.display ∧
          (¬ Uncounted id → q.id = id.display) ∧ (Uncounted id → s.supply.Issues t.supply q.id))
        given qs := by
  obtain ⟨t, hrun, hrecords, hsupply⟩ := exists_run_importAll hgiven hwrite
  have hrestored : List.Forall₂ (Restored s.supply t.supply) given (recordsOf given s.supply).1 :=
    hsupply ▸ restored_recordsOf given s.supply
  have hboth := (List.forall₂_and_left _ _).mpr ⟨acceptsId_of_records hgiven, hrestored⟩
  refine ⟨t, _, hrun, hrecords ▸ collected_collect _, hrestored, hboth.imp ?_⟩
  rintro members q ⟨hchecked, hq⟩ id hnull hempty
  have hcarries := carriesId_of_ne hnull hempty
  have haccepted : Argument.queryId (.str id.display) = .ok id.display := by
    obtain ⟨answer, hanswer⟩ := hchecked hcarries
    rw [(eq_of_queryId_eq_ok hanswer).1]
    exact (eq_of_queryId_eq_ok hanswer).1 ▸ hanswer
  have hid := hq.id
  refine ⟨haccepted, fun hcounts => ?_, fun huncounted => ?_⟩
  · cases htruthy : id.truthy with
    | true => rwa [if_pos htruthy] at hid
    | false => exact absurd (uncounted_of_queryId htruthy hcarries haccepted) hcounts
  · rwa [if_neg (Bool.eq_false_iff.mp huncounted.truthy)] at hid

/-- The text of a number is accepted, and the record is stored under it. -/
theorem importAll_checkedIds_seven :
    Argument.queryId (.str "7") = .ok "7" ∧
      ids ((Call.importAll (.array [.record [("id", .int 7)]])).run blank).2.records = ["7"] := by
  have hgiven : Argument.records (.array [.record [("id", .int 7)]]) = .ok [[("id", .int 7)]] := rfl
  obtain ⟨t, qs, hrun, hcollected, -, hids⟩ :=
    importAll_checkedIds (s := blank) hgiven (.inl rfl)
  cases hids with
  | @cons _ q _ others hq hothers =>
    cases hothers
    have hnull : Value.int 7 ≠ .null := by simp
    have hempty : Value.int 7 ≠ .str "" := by simp
    have hcounts : ¬ Uncounted (.int 7) := by simp [Uncounted]
    obtain ⟨haccepted, hkept, -⟩ := hq hnull hempty
    have hid : q.id = "7" := hkept hcounts
    refine ⟨haccepted, ?_⟩
    rw [hrun, hcollected.ids]
    show [q.id].eraseDups = ["7"]
    rw [hid]
    rfl

/-- Zero is accepted as a text, and the record gets another identifier. -/
theorem not_importAll_checkedIds_zero :
    Argument.records (.array [.record [("id", .int 0)]]) = .ok [[("id", .int 0)]] ∧
      Argument.queryId (.str (Value.int 0).display) = .ok "0" ∧
      ids ((Call.importAll (.array [.record [("id", .int 0)]])).run blank).2.records
        = ["00000000000000000000000000000001"] :=
  ⟨rfl, rfl, rfl⟩

end

end DocView.Store
