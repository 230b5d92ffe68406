import DocView.Value.Basic
import Mathlib.Data.List.Induction
import Mathlib.Data.List.Nodup

/-!
# Members with distinct names

That an object has each name once is a convention of the functions that build objects and not part
of the type, so it is a hypothesis where it matters and a lemma about every builder. Inserting
keeps it, and rebuilding members from their own entries gives them back exactly when it holds.

## Main results

* `Members.get?_eq_some_of_mem`, `Members.mem_of_get?`
* `Members.nodup_insert`, `Members.nodup_ofEntries`
* `Members.ofEntries_eq_self` - members with distinct names are their own entries
* `Members.get?_overlay`, `Members.names_overlay` - members that are overlaid
-/

namespace DocView.Members

variable {members : Members} {name : String} {v : Value}

/-! ### Looking up -/

@[simp] theorem get?_nil : get? [] name = none := rfl

theorem get?_cons (entry : String × Value) (rest : Members) :
    get? (entry :: rest) name = if name = entry.1 then some entry.2 else get? rest name := by
  unfold get?
  rw [List.lookup_cons]
  by_cases h : name = entry.1
  · simp [h]
  · rw [beq_eq_false_iff_ne.mpr h, if_neg h]

theorem mem_of_get? (h : get? members name = some v) : (name, v) ∈ members := by
  induction members with
  | nil => contradiction
  | cons entry rest ih =>
    rw [get?_cons] at h
    split at h
    next hname =>
      cases h
      rw [hname]
      exact List.mem_cons_self
    next => exact List.mem_cons_of_mem entry (ih h)

theorem mem_names_of_mem (h : (name, v) ∈ members) : name ∈ names members :=
  List.mem_map.mpr ⟨(name, v), h, rfl⟩

theorem get?_eq_some_of_mem (hnd : (names members).Nodup) (h : (name, v) ∈ members) :
    get? members name = some v := by
  induction members with
  | nil => contradiction
  | cons entry rest ih =>
    have hrest : entry.1 ∉ names rest ∧ (names rest).Nodup := List.nodup_cons.mp hnd
    rw [get?_cons]
    rcases List.mem_cons.mp h with rfl | h
    · simp
    · have hne : name ≠ entry.1 := fun heq => hrest.1 (heq ▸ mem_names_of_mem h)
      rw [if_neg hne, ih hrest.2 h]

theorem get?_eq_none_of_notMem (h : name ∉ names members) : get? members name = none :=
  Option.eq_none_iff_forall_ne_some.mpr fun _ hv => h (mem_names_of_mem (mem_of_get? hv))

theorem get?_append (lower upper : Members) (name : String) :
    get? (lower ++ upper) name = (get? lower name).or (get? upper name) :=
  List.lookup_append

/-- Looking up in members whose values were all changed alike. -/
theorem get?_map (f : Value → Value) (members : Members) (name : String) :
    get? (members.map fun entry => (entry.1, f entry.2)) name = (get? members name).map f := by
  induction members with
  | nil => rfl
  | cons entry rest ih =>
    rw [List.map_cons, get?_cons, get?_cons, ih]
    split <;> rfl

/-! ### Inserting -/

theorem mem_names_insert {n : String} :
    n ∈ names (insert members name v) ↔ n ∈ names members ∨ n = name := by
  induction members with
  | nil => simp [insert, names]
  | cons entry rest ih =>
    unfold insert
    split
    next h =>
      subst h
      simp only [names, List.map_cons, List.mem_cons]
      tauto
    next h =>
      simp only [names, List.map_cons, List.mem_cons] at ih ⊢
      rw [ih]
      tauto

theorem nodup_insert (hnd : (names members).Nodup) : (names (insert members name v)).Nodup := by
  induction members with
  | nil => simp [insert, names]
  | cons entry rest ih =>
    have hrest : entry.1 ∉ names rest ∧ (names rest).Nodup := List.nodup_cons.mp hnd
    unfold insert
    split
    next h => exact hnd
    next h =>
      refine List.nodup_cons.mpr ⟨fun hmem => ?_, ih hrest.2⟩
      rcases mem_names_insert.mp hmem with hmem | heq
      · exact hrest.1 hmem
      · exact h heq

/-- A new name goes to the end. -/
theorem insert_of_notMem (h : name ∉ names members) :
    insert members name v = members ++ [(name, v)] := by
  induction members with
  | nil => rfl
  | cons entry rest ih =>
    have hrest : entry.1 ≠ name ∧ name ∉ names rest := by
      constructor
      · exact fun heq => h (heq ▸ List.mem_cons_self)
      · exact fun hmem => h (List.mem_cons_of_mem _ hmem)
    unfold insert
    rw [if_neg hrest.1, ih hrest.2, List.cons_append]

/-- A name that is there already keeps its place. -/
theorem names_insert_of_mem (h : name ∈ names members) :
    names (insert members name v) = names members := by
  induction members with
  | nil => simp [names] at h
  | cons entry rest ih =>
    unfold insert
    split
    next => rfl
    next hne =>
      have hrest : name ∈ names rest := by
        rcases List.mem_cons.mp h with heq | hmem
        · exact absurd heq.symm hne
        · exact hmem
      show entry.1 :: names (insert rest name v) = entry.1 :: names rest
      rw [ih hrest]

theorem get?_insert (members : Members) (name : String) (v : Value) (n : String) :
    get? (insert members name v) n = if n = name then some v else get? members n := by
  induction members with
  | nil => rw [insert, get?_cons, get?_nil]
  | cons entry rest ih =>
    unfold insert
    split
    next h => rw [get?_cons, get?_cons, h]; split <;> rfl
    next h =>
      rw [get?_cons, get?_cons, ih]
      split
      next hentry => rw [if_neg fun heq => h (hentry.symm.trans heq)]
      next => rfl

theorem mem_of_mem_insert {entry : String × Value} (h : entry ∈ insert members name v) :
    entry ∈ members ∨ entry = (name, v) := by
  induction members with
  | nil => exact .inr (List.mem_singleton.mp h)
  | cons first rest ih =>
    unfold insert at h
    split at h
    next hname =>
      rcases List.mem_cons.mp h with rfl | h
      · exact .inr (hname ▸ rfl)
      · exact .inl (List.mem_cons_of_mem first h)
    next =>
      rcases List.mem_cons.mp h with rfl | h
      · exact .inl List.mem_cons_self
      · exact (ih h).imp_left (List.mem_cons_of_mem first)

theorem names_insert (members : Members) (name : String) (v : Value) :
    names (insert members name v)
      = if name ∈ names members then names members else names members ++ [name] := by
  split
  next h => exact names_insert_of_mem h
  next h => rw [insert_of_notMem h, names, List.map_append]; rfl

/-! ### Building from entries -/

/-- Whatever is put under the names of entries, the names come in the order in which they came
first. -/
theorem names_foldl_eq_eraseDups {step : Members → String × Value → Members}
    (hstep : ∀ members entry, names (step members entry)
      = if entry.1 ∈ names members then names members else names members ++ [entry.1])
    (entries : List (String × Value)) :
    names (entries.foldl step []) = (entries.map Prod.fst).eraseDups := by
  induction entries using List.reverseRecOn with
  | nil => rfl
  | append_singleton entries entry ih =>
    rw [List.foldl_concat, hstep, ih, List.map_append, List.eraseDups_append]
    split
    next h =>
      have hmem : entry.1 ∈ entries.map Prod.fst := List.mem_eraseDups.mp h
      simp [List.removeAll, hmem]
    next h =>
      have hmem : entry.1 ∉ entries.map Prod.fst := fun hmem => h (List.mem_eraseDups.mpr hmem)
      simp [List.removeAll, List.eraseDups_cons, hmem]

theorem nodup_foldl_insert (entries : List (String × Value)) (hnd : (names members).Nodup) :
    (names (entries.foldl (fun ms entry => insert ms entry.1 entry.2) members)).Nodup := by
  induction entries generalizing members with
  | nil => exact hnd
  | cons entry rest ih => exact ih (nodup_insert hnd)

theorem nodup_ofEntries (entries : List (String × Value)) : (names (ofEntries entries)).Nodup :=
  nodup_foldl_insert entries List.nodup_nil

/-- Nothing is there that was not among the entries. -/
theorem mem_of_mem_ofEntries {entries : List (String × Value)} {entry : String × Value}
    (h : entry ∈ ofEntries entries) : entry ∈ entries := by
  induction entries using List.reverseRecOn with
  | nil => exact h
  | append_singleton entries last ih =>
    rw [ofEntries, List.foldl_concat] at h
    rcases mem_of_mem_insert h with h | rfl
    · exact List.mem_append_left _ (ih h)
    · simp

theorem foldl_insert_of_nodup {entries : List (String × Value)}
    (hnd : (names (members ++ entries)).Nodup) :
    entries.foldl (fun ms entry => insert ms entry.1 entry.2) members = members ++ entries := by
  induction entries generalizing members with
  | nil => exact (List.append_nil members).symm
  | cons entry rest ih =>
    have hsplit : members ++ entry :: rest = (members ++ [(entry.1, entry.2)]) ++ rest := by
      rw [List.append_assoc]
      rfl
    have hnew : entry.1 ∉ names members := by
      intro hmem
      rw [names, List.map_append] at hnd
      exact (List.nodup_append.mp hnd).2.2 _ hmem _ List.mem_cons_self rfl
    rw [List.foldl_cons, insert_of_notMem hnew, hsplit]
    exact ih (hsplit ▸ hnd)

/-- **Members with distinct names are their own entries.** -/
theorem ofEntries_eq_self (hnd : (names members).Nodup) : ofEntries members = members := by
  have hnil : (names ([] ++ members)).Nodup := hnd
  exact foldl_insert_of_nodup hnil

/-! ### Overlaying and leaving out -/

/-- More entries are overlaid. -/
theorem ofEntries_append (entries more : List (String × Value)) :
    ofEntries (entries ++ more) = overlay (ofEntries entries) more :=
  List.foldl_append

theorem mem_names_overlay {lower upper : Members} :
    name ∈ names (overlay lower upper) ↔ name ∈ names lower ∨ name ∈ names upper := by
  unfold overlay
  induction upper generalizing lower with
  | nil => simp [names]
  | cons entry rest ih =>
    rw [List.foldl_cons, ih, mem_names_insert, or_assoc]
    simp [names]

/-- The upper value of a name hides the lower one. -/
theorem get?_overlay {lower upper : Members} (hnd : (names upper).Nodup) (name : String) :
    get? (overlay lower upper) name = (get? upper name).or (get? lower name) := by
  unfold overlay
  induction upper generalizing lower with
  | nil => rfl
  | cons entry rest ih =>
    have hrest : entry.1 ∉ names rest ∧ (names rest).Nodup := List.nodup_cons.mp hnd
    rw [List.foldl_cons, ih hrest.2, get?_insert, get?_cons]
    split
    next h => rw [h, get?_eq_none_of_notMem hrest.1]; rfl
    next => rfl

/-- Lower names keep their places, and new upper names follow in order. -/
theorem names_overlay {lower upper : Members} (hnd : (names upper).Nodup) :
    names (overlay lower upper)
      = names lower ++ (names upper).filter fun name => name ∉ names lower := by
  unfold overlay
  induction upper generalizing lower with
  | nil => simp [names]
  | cons entry rest ih =>
    have hrest : entry.1 ∉ names rest ∧ (names rest).Nodup := List.nodup_cons.mp hnd
    have hcons : names (entry :: rest) = entry.1 :: names rest := rfl
    rw [List.foldl_cons, ih hrest.2, hcons]
    by_cases hmem : entry.1 ∈ names lower
    · rw [names_insert_of_mem hmem, List.filter_cons_of_neg (by simpa using hmem)]
    · have hnames : names (insert lower entry.1 entry.2) = names lower ++ [entry.1] := by
        rw [insert_of_notMem hmem, names, List.map_append]
        rfl
      have hsame : (names rest).filter (fun name => name ∉ names lower ++ [entry.1])
          = (names rest).filter (fun name => name ∉ names lower) := by
        refine List.filter_congr fun name hname => ?_
        have hne : name ≠ entry.1 := fun heq => hrest.1 (heq ▸ hname)
        simp [hne]
      rw [hnames, hsame, List.filter_cons_of_pos (by simpa using hmem), List.append_assoc]
      rfl

theorem nodup_names_without {excluded : List String} (hnd : (names members).Nodup) :
    (names (without members excluded)).Nodup :=
  hnd.sublist (List.filter_sublist.map _)

theorem mem_names_without {excluded : List String} :
    name ∈ names (without members excluded) ↔ name ∈ names members ∧ name ∉ excluded := by
  unfold names without
  rw [List.mem_map, List.mem_map]
  constructor
  · rintro ⟨entry, hentry, rfl⟩
    obtain ⟨hmem, hnot⟩ := List.mem_filter.mp hentry
    exact ⟨⟨entry, hmem, rfl⟩, by simpa using hnot⟩
  · rintro ⟨⟨entry, hmem, rfl⟩, hnot⟩
    exact ⟨entry, List.mem_filter.mpr ⟨hmem, by simpa using hnot⟩, rfl⟩

theorem without_append (lower upper : Members) (excluded : List String) :
    without (lower ++ upper) excluded = without lower excluded ++ without upper excluded :=
  List.filter_append lower upper

theorem without_eq_self {excluded : List String} (h : ∀ name ∈ names members, name ∉ excluded) :
    without members excluded = members := by
  refine List.filter_eq_self.mpr fun entry hentry => ?_
  simpa using h entry.1 (List.mem_map_of_mem hentry)

end DocView.Members
