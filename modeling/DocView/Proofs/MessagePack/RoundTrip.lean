import DocView.MessagePack.Reader
import DocView.MessagePack.Writer
import DocView.Proofs.Bytes
import DocView.Proofs.Result
import DocView.Proofs.Value.Data

/-!
# MessagePack is read back

Every value starts with a tag. The writer chooses the tag by the size of a number or a length, so
what there is to show of a tag is that the reader takes the range of sizes it was chosen for as
announced, and that the number that follows it fits into its width. The values with parts then go
by induction.

The reader takes fuel. A value with parts costs three calls, one for the value, one for all of its
parts and one for the next part, and none of them is made without a byte for it. The bound that
goes through the induction is three times the number of bytes, which may be one less for a value
alone.

## Main results

* `MessagePack.readValue_intBytes` - an integer is read back at every width
* `MessagePack.readsBack` - a value is read back, whatever follows it
* `MessagePack.read_write` - bytes that are written as one value are read as the value
-/

namespace DocView.MessagePack

open Value (IsData)

/-! ### Numbers -/

section

variable {size fuel : Nat} {rest : List UInt8}

theorem take_append {taken : List UInt8} {count : Nat} (h : taken.length = count) :
    take count (taken ++ rest) = .ok (taken, rest) := by
  subst h
  simp [take]

theorem natural_append {width n : Nat} (h : n < 256 ^ width) :
    natural width (Bytes.ofNat width n ++ rest) = .ok (n, rest) := by
  rw [natural, take_append (Bytes.length_ofNat width n)]
  simp only [bind, Except.bind, Bytes.toNat_ofNat h]

/-- The complement of a number that needs one bit less than there are is read as its negative. -/
theorem integer_append {width n : Nat} (hpos : 0 < n) (h : 2 * n ≤ 256 ^ width) :
    integer width (Bytes.ofNat width (256 ^ width - n) ++ rest) = .ok (.int (-n), rest) := by
  have hfits : 256 ^ width - n < 256 ^ width := by omega
  have hlarge : Nat.pow 256 width ≤ 2 * (256 ^ width - n) := by
    rw [Nat.pow_eq]
    omega
  rw [integer, natural_append hfits]
  simp only [bind, Except.bind, Nat.pow_eq]
  congr 3
  omega

/-! ### Tags

A tag is below 256, so it is the byte that is written for it. -/

theorem toNat_tag {tag : Nat} (h : tag < 0x100) : (UInt8.ofNat tag).toNat = tag :=
  UInt8.toNat_ofNat_of_lt' h

theorem readValue_tag {tag : Nat} {v : Value} (htag : tag < 0x100)
    (hhead : head? tag = some (.value v)) :
    readValue size (fuel + 1) (UInt8.ofNat tag :: rest) = .ok (v, rest) := by
  rw [readValue, toNat_tag htag, hhead]

theorem readValue_natural {tag width n : Nat} (htag : tag < 0x100)
    (hhead : head? tag = some (.natural width)) (hn : n < 256 ^ width) :
    readValue size (fuel + 1) (tagged tag width n ++ rest) = .ok (.int n, rest) := by
  rw [tagged, List.cons_append, readValue, toNat_tag htag, hhead]
  simp only [natural_append hn, bind, Except.bind]

theorem readValue_integer {tag width n : Nat} (htag : tag < 0x100)
    (hhead : head? tag = some (.integer width)) (hpos : 0 < n) (hn : 2 * n ≤ 256 ^ width) :
    readValue size (fuel + 1) (tagged tag width (256 ^ width - n) ++ rest)
      = .ok (.int (-n), rest) := by
  rw [tagged, List.cons_append, readValue, toNat_tag htag, hhead]
  exact integer_append hpos hn

/-- The last tags are the numbers from -32 to -1 themselves. -/
theorem head?_negative {tag : Nat} (h : 0xE0 ≤ tag) :
    head? tag = some (.value (.int ((tag : Int) - 0x100))) := by
  simp (disch := omega) only [head?, if_neg]

/-- **A number that is not negative is read back**, from the tag itself or at one of four
widths. -/
theorem readValue_natBytes {n : Nat} {bytes : List UInt8} (h : natBytes n = .ok bytes) :
    readValue size (fuel + 1) (bytes ++ rest) = .ok (.int n, rest) := by
  unfold natBytes at h
  split_ifs at h with htag hone htwo hfour height
  all_goals obtain rfl := Except.ok.inj h
  · exact readValue_tag (by omega) (if_pos htag)
  · exact readValue_natural (by decide) rfl hone
  · exact readValue_natural (by decide) rfl htwo
  · exact readValue_natural (by decide) rfl hfour
  · exact readValue_natural (by decide) rfl (height.trans_eq rfl)

/-- **A negative number is read back.** -/
theorem readValue_negativeBytes {n : Nat} (hpos : 0 < n) {bytes : List UInt8}
    (h : negativeBytes n = .ok bytes) :
    readValue size (fuel + 1) (bytes ++ rest) = .ok (.int (-n), rest) := by
  unfold negativeBytes at h
  split_ifs at h with htag hone htwo hfour height
  all_goals obtain rfl := Except.ok.inj h
  · have hhead := head?_negative (show 0xE0 ≤ 0x100 - n by omega)
    rw [show ((0x100 - n : Nat) : Int) - 0x100 = -n by omega] at hhead
    exact readValue_tag (by omega) hhead
  · exact readValue_integer (by decide) rfl hpos (by omega)
  · exact readValue_integer (by decide) rfl hpos (by omega)
  · exact readValue_integer (by decide) rfl hpos (by omega)
  · exact readValue_integer (by decide) rfl hpos (by norm_num at height ⊢; omega)

theorem readValue_intBytes {n : Int} {bytes : List UInt8} (h : intBytes n = .ok bytes) :
    readValue size (fuel + 1) (bytes ++ rest) = .ok (.int n, rest) := by
  unfold intBytes at h
  split_ifs at h with hneg
  · have hn : -((n.natAbs : Nat) : Int) = n := by omega
    exact hn ▸ readValue_negativeBytes (by omega) h
  · have hn : ((n.toNat : Nat) : Int) = n := Int.toNat_of_nonneg (not_lt.mp hneg)
    exact hn ▸ readValue_natBytes h

/-- A double is read back. -/
theorem readValue_double (x : Binary64) :
    readValue size (fuel + 1) (tagged 0xCB 8 x.bits.toNat ++ rest) = .ok (.float x, rest) := by
  have hbits : x.bits.toNat < 256 ^ 8 := x.bits.toNat_lt
  have hhead : head? 0xCB = some .double := rfl
  rw [tagged, List.cons_append, readValue, toNat_tag (by decide), hhead]
  simp only [natural_append hbits, bind, Except.bind, UInt64.ofNat_toNat]

end

/-! ### Heads

A head stands for the length that it was written for. -/

section

variable {size fuel length : Nat} {bytes : List UInt8}

theorem head?_text (h : length < 0x20) : head? (0xA0 + length) = some (.text length) := by
  simp (disch := omega) only [head?, if_neg, if_pos, Nat.add_sub_cancel_left]

theorem head?_list (h : length < 0x10) : head? (0x90 + length) = some (.list length) := by
  simp (disch := omega) only [head?, if_neg, if_pos, Nat.add_sub_cancel_left]

theorem head?_object (h : length < 0x10) : head? (0x80 + length) = some (.object length) := by
  simp (disch := omega) only [head?, if_neg, if_pos, Nat.add_sub_cancel_left]

theorem readValue_textHead (h : length < 2 ^ 32) :
    readValue size (fuel + 1) (textHead length ++ bytes) = text length bytes := by
  have hsized : ∀ {tag width}, tag < 0x100 → head? tag = some (.sizedText width) →
      length < 256 ^ width →
      readValue size (fuel + 1) (tagged tag width length ++ bytes) = text length bytes := by
    intro tag width htag hhead hlength
    rw [tagged, List.cons_append, readValue, toNat_tag htag, hhead]
    simp only [sized, natural_append hlength, bind, Except.bind]
  unfold textHead
  split_ifs with htag hone htwo
  · rw [List.singleton_append, readValue, toNat_tag (by omega), head?_text htag]
  · exact hsized (by decide) rfl hone
  · exact hsized (by decide) rfl htwo
  · exact hsized (by decide) rfl h

theorem readValue_listHead (h : length < 2 ^ 32) :
    readValue size (fuel + 1) (listHead length ++ bytes) = readList size fuel length bytes := by
  have hsized : ∀ {tag width}, tag < 0x100 → head? tag = some (.sizedList width) →
      length < 256 ^ width →
      readValue size (fuel + 1) (tagged tag width length ++ bytes)
        = readList size fuel length bytes := by
    intro tag width htag hhead hlength
    rw [tagged, List.cons_append, readValue, toNat_tag htag, hhead]
    simp only [natural_append hlength, bind, Except.bind]
  unfold listHead
  split_ifs with htag htwo
  · rw [List.singleton_append, readValue, toNat_tag (by omega), head?_list htag]
  · exact hsized (by decide) rfl htwo
  · exact hsized (by decide) rfl h

theorem readValue_objectHead (h : length < 2 ^ 32) :
    readValue size (fuel + 1) (objectHead length ++ bytes) = readObject size fuel length bytes := by
  have hsized : ∀ {tag width}, tag < 0x100 → head? tag = some (.sizedObject width) →
      length < 256 ^ width →
      readValue size (fuel + 1) (tagged tag width length ++ bytes)
        = readObject size fuel length bytes := by
    intro tag width htag hhead hlength
    rw [tagged, List.cons_append, readValue, toNat_tag htag, hhead]
    simp only [natural_append hlength, bind, Except.bind]
  unfold objectHead
  split_ifs with htag htwo
  · rw [List.singleton_append, readValue, toNat_tag (by omega), head?_object htag]
  · exact hsized (by decide) rfl htwo
  · exact hsized (by decide) rfl h

theorem textHead_ne_nil (length : Nat) : textHead length ≠ [] := by
  unfold textHead
  split_ifs <;> exact List.cons_ne_nil _ _

theorem listHead_ne_nil (length : Nat) : listHead length ≠ [] := by
  unfold listHead
  split_ifs <;> exact List.cons_ne_nil _ _

theorem objectHead_ne_nil (length : Nat) : objectHead length ≠ [] := by
  unfold objectHead
  split_ifs <;> exact List.cons_ne_nil _ _

/-- A head is there only for a length that it has room for. -/
theorem headed_eq_ok {what : String} {head : Nat → List UInt8} {start : List UInt8}
    (h : headed what head length = .ok start) : length < 2 ^ 32 ∧ head length = start := by
  unfold headed at h
  split_ifs at h with hlength
  exact ⟨hlength, Except.ok.inj h⟩

end

/-! ### What is written -/

theorem eq_of_textBytes_eq_ok {s : String} {bytes : List UInt8} (h : textBytes s = .ok bytes) :
    (Utf8.encode s).length < 2 ^ 32
      ∧ bytes = textHead (Utf8.encode s).length ++ Utf8.encode s := by
  obtain ⟨start, hstart, hbytes⟩ := bind_eq_ok.mp h
  obtain ⟨hlength, rfl⟩ := headed_eq_ok hstart
  exact ⟨hlength, (Except.ok.inj hbytes).symm⟩

theorem eq_of_write_list_eq_ok {items : List Value} {bytes : List UInt8}
    (h : write (.array items) = .ok bytes) :
    items.length < 2 ^ 32
      ∧ ∃ body, writeItems items = .ok body ∧ bytes = listHead items.length ++ body := by
  rw [Value.array, write] at h
  obtain ⟨start, hstart, hrest⟩ := bind_eq_ok.mp h
  obtain ⟨body, hbody, hbytes⟩ := bind_eq_ok.mp hrest
  obtain ⟨hlength, rfl⟩ := headed_eq_ok hstart
  exact ⟨hlength, body, hbody, (Except.ok.inj hbytes).symm⟩

theorem eq_of_write_object_eq_ok {members : Members} {bytes : List UInt8}
    (h : write (.record members) = .ok bytes) :
    members.length < 2 ^ 32
      ∧ ∃ body, writeMembers members = .ok body ∧ bytes = objectHead members.length ++ body := by
  rw [Value.record, write] at h
  obtain ⟨start, hstart, hrest⟩ := bind_eq_ok.mp h
  obtain ⟨body, hbody, hbytes⟩ := bind_eq_ok.mp hrest
  obtain ⟨hlength, rfl⟩ := headed_eq_ok hstart
  exact ⟨hlength, body, hbody, (Except.ok.inj hbytes).symm⟩

theorem eq_of_writeItems_cons_eq_ok {v : Value} {more : List Value} {bytes : List UInt8}
    (h : writeItems (v :: more) = .ok bytes) :
    ∃ first others, write v = .ok first ∧ writeItems more = .ok others
      ∧ bytes = first ++ others := by
  rw [writeItems] at h
  obtain ⟨first, hfirst, hrest⟩ := bind_eq_ok.mp h
  obtain ⟨others, hothers, hbytes⟩ := bind_eq_ok.mp hrest
  exact ⟨first, others, hfirst, hothers, (Except.ok.inj hbytes).symm⟩

theorem eq_of_writeMembers_cons_eq_ok {name : String} {v : Value} {more : Members}
    {bytes : List UInt8} (h : writeMembers ((name, v) :: more) = .ok bytes) :
    ∃ start first others, textBytes name = .ok start ∧ write v = .ok first
      ∧ writeMembers more = .ok others ∧ bytes = start ++ (first ++ others) := by
  rw [writeMembers] at h
  obtain ⟨start, hstart, hrest⟩ := bind_eq_ok.mp h
  obtain ⟨first, hfirst, hrest⟩ := bind_eq_ok.mp hrest
  obtain ⟨others, hothers, hbytes⟩ := bind_eq_ok.mp hrest
  refine ⟨start, first, others, hstart, hfirst, hothers, ?_⟩
  rw [← Except.ok.inj hbytes, List.append_assoc]

/-! ### Nothing is written in no bytes -/

theorem textBytes_ne_nil {s : String} {bytes : List UInt8} (h : textBytes s = .ok bytes) :
    bytes ≠ [] := by
  obtain ⟨-, rfl⟩ := eq_of_textBytes_eq_ok h
  exact List.append_ne_nil_of_left_ne_nil (textHead_ne_nil _) _

theorem intBytes_ne_nil {n : Int} {bytes : List UInt8} (h : intBytes n = .ok bytes) :
    bytes ≠ [] := by
  unfold intBytes natBytes negativeBytes at h
  split_ifs at h <;> (obtain rfl := Except.ok.inj h; exact List.cons_ne_nil _ _)

theorem write_ne_nil {double : Binary64 → Prop} {v : Value} (hv : v.IsData double)
    {bytes : List UInt8} (h : write v = .ok bytes) : bytes ≠ [] := by
  cases hv with
  | null => exact Except.ok.inj h ▸ List.cons_ne_nil _ _
  | bool b => exact Except.ok.inj h ▸ List.cons_ne_nil _ _
  | int n => exact intBytes_ne_nil h
  | float => exact Except.ok.inj h ▸ List.cons_ne_nil _ _
  | str s => exact textBytes_ne_nil h
  | list _ =>
    obtain ⟨-, body, -, rfl⟩ := eq_of_write_list_eq_ok h
    exact List.append_ne_nil_of_left_ne_nil (listHead_ne_nil _) _
  | object _ _ =>
    obtain ⟨-, body, -, rfl⟩ := eq_of_write_object_eq_ok h
    exact List.append_ne_nil_of_left_ne_nil (objectHead_ne_nil _) _

/-- A byte for every item: the reader takes the length of a list for possible. -/
theorem length_le_of_writeItems {double : Binary64 → Prop} {items : List Value}
    (hdata : ∀ v ∈ items, v.IsData double) {bytes : List UInt8}
    (h : writeItems items = .ok bytes) : items.length ≤ bytes.length := by
  induction items generalizing bytes with
  | nil => exact Nat.zero_le _
  | cons v more ih =>
    obtain ⟨hv, hmore⟩ := List.forall_mem_cons.mp hdata
    obtain ⟨first, others, hfirst, hothers, rfl⟩ := eq_of_writeItems_cons_eq_ok h
    have hpos := List.length_pos_of_ne_nil (write_ne_nil hv hfirst)
    have hrest := ih hmore hothers
    rw [List.length_cons, List.length_append]
    omega

/-- Two bytes for every member, since a name takes one too. -/
theorem length_le_of_writeMembers {double : Binary64 → Prop} {members : Members}
    (hdata : ∀ entry ∈ members, entry.2.IsData double) {bytes : List UInt8}
    (h : writeMembers members = .ok bytes) : 2 * members.length ≤ bytes.length := by
  induction members generalizing bytes with
  | nil => exact Nat.zero_le _
  | cons entry more ih =>
    obtain ⟨hv, hmore⟩ := List.forall_mem_cons.mp hdata
    obtain ⟨start, first, others, hstart, hfirst, hothers, rfl⟩ := eq_of_writeMembers_cons_eq_ok h
    have hname := List.length_pos_of_ne_nil (textBytes_ne_nil hstart)
    have hpos := List.length_pos_of_ne_nil (write_ne_nil hv hfirst)
    have hrest := ih hmore hothers
    simp only [List.length_cons, List.length_append]
    omega

/-! ### Values -/

/-- A value that is read back from input of enough size with enough fuel, whatever follows it. -/
def ReadsBack (v : Value) : Prop :=
  ∀ bytes, write v = .ok bytes → ∀ size fuel rest, bytes.length ≤ size →
    3 * bytes.length ≤ fuel + 1 → readValue size fuel (bytes ++ rest) = .ok (v, rest)

theorem text_encode (s : String) (rest : List UInt8) :
    text (Utf8.encode s).length (Utf8.encode s ++ rest) = .ok (.str s, rest) := by
  rw [text, take_append rfl]
  simp only [bind, Except.bind, Utf8.decode_encode]

theorem readValue_textBytes {s : String} {bytes : List UInt8} (h : textBytes s = .ok bytes)
    (size fuel : Nat) (rest : List UInt8) :
    readValue size (fuel + 1) (bytes ++ rest) = .ok (.str s, rest) := by
  obtain ⟨hlength, rfl⟩ := eq_of_textBytes_eq_ok h
  rw [List.append_assoc, readValue_textHead hlength, text_encode]

theorem readItems_write {items : List Value} {double : Binary64 → Prop}
    (hdata : ∀ v ∈ items, v.IsData double) (hitems : ∀ v ∈ items, ReadsBack v)
    {bytes : List UInt8} (h : writeItems items = .ok bytes) {size : Nat}
    (hsize : bytes.length ≤ size) {fuel : Nat} (hfuel : 3 * bytes.length ≤ fuel)
    (rest : List UInt8) :
    readItems size fuel items.length (bytes ++ rest) = .ok (items, rest) := by
  induction items generalizing bytes fuel with
  | nil =>
    obtain rfl : [] = bytes := Except.ok.inj h
    rw [List.length_nil, readItems, List.nil_append]
  | cons v more ih =>
    obtain ⟨hv, hmore⟩ := List.forall_mem_cons.mp hitems
    obtain ⟨hdatav, hdatamore⟩ := List.forall_mem_cons.mp hdata
    obtain ⟨first, others, hfirst, hothers, rfl⟩ := eq_of_writeItems_cons_eq_ok h
    have hpos := List.length_pos_of_ne_nil (write_ne_nil hdatav hfirst)
    rw [List.length_append] at hsize hfuel
    obtain ⟨fuel, rfl⟩ : ∃ n, fuel = n + 1 := ⟨fuel - 1, by omega⟩
    rw [List.append_assoc, List.length_cons, readItems,
      hv first hfirst size fuel _ (by omega) (by omega)]
    have hrest := ih hdatamore hmore hothers (by omega) (show _ ≤ fuel by omega)
    simp only [bind, Except.bind, hrest]

theorem readEntries_write {members : Members} {double : Binary64 → Prop}
    (hdata : ∀ entry ∈ members, entry.2.IsData double)
    (hmembers : ∀ entry ∈ members, ReadsBack entry.2)
    {bytes : List UInt8} (h : writeMembers members = .ok bytes) {size : Nat}
    (hsize : bytes.length ≤ size) {fuel : Nat} (hfuel : 3 * bytes.length ≤ fuel)
    (rest : List UInt8) :
    readEntries size fuel members.length (bytes ++ rest) = .ok (members, rest) := by
  induction members generalizing bytes fuel with
  | nil =>
    obtain rfl : [] = bytes := Except.ok.inj h
    rw [List.length_nil, readEntries, List.nil_append]
  | cons entry more ih =>
    obtain ⟨name, v⟩ := entry
    have hv : ReadsBack v := hmembers (name, v) List.mem_cons_self
    have hmore := fun entry hentry => hmembers entry (List.mem_cons_of_mem (name, v) hentry)
    obtain ⟨hdatav, hdatamore⟩ := List.forall_mem_cons.mp hdata
    obtain ⟨start, first, others, hstart, hfirst, hothers, rfl⟩ := eq_of_writeMembers_cons_eq_ok h
    have hname := List.length_pos_of_ne_nil (textBytes_ne_nil hstart)
    have hpos := List.length_pos_of_ne_nil (write_ne_nil hdatav hfirst)
    simp only [List.length_append] at hsize hfuel
    obtain ⟨fuel, rfl⟩ : ∃ n, fuel = n + 2 := ⟨fuel - 2, by omega⟩
    rw [List.append_assoc, List.append_assoc, List.length_cons, readEntries,
      readValue_textBytes hstart size fuel]
    have hrest := ih hdatamore hmore hothers (by omega) (show _ ≤ fuel + 1 by omega)
    simp only [bind, Except.bind, hv first hfirst size (fuel + 1) _ (by omega) (by omega), hrest]

theorem readsBack {v : Value} {double : Binary64 → Prop} (hv : v.IsData double) : ReadsBack v := by
  induction hv with
  | null =>
    intro bytes h size fuel rest _ hfuel
    obtain rfl : [0xC0] = bytes := Except.ok.inj h
    obtain ⟨fuel, rfl⟩ : ∃ n, fuel = n + 1 := ⟨fuel - 1, by simp at hfuel; omega⟩
    exact readValue_tag (show 0xC0 < 0x100 by decide) rfl
  | bool b =>
    intro bytes h size fuel rest _ hfuel
    obtain rfl : [if b then 0xC3 else 0xC2] = bytes := Except.ok.inj h
    obtain ⟨fuel, rfl⟩ : ∃ n, fuel = n + 1 := ⟨fuel - 1, by simp at hfuel; omega⟩
    cases b with
    | false => exact readValue_tag (show 0xC2 < 0x100 by decide) rfl
    | true => exact readValue_tag (show 0xC3 < 0x100 by decide) rfl
  | int n =>
    intro bytes h size fuel rest _ hfuel
    have hpos := List.length_pos_of_ne_nil (intBytes_ne_nil h)
    obtain ⟨fuel, rfl⟩ : ∃ n, fuel = n + 1 := ⟨fuel - 1, by omega⟩
    exact readValue_intBytes h
  | @float x =>
    intro bytes h size fuel rest _ hfuel
    obtain rfl : tagged 0xCB 8 x.bits.toNat = bytes := Except.ok.inj h
    obtain ⟨fuel, rfl⟩ : ∃ n, fuel = n + 1 := ⟨fuel - 1, by simp [tagged] at hfuel; omega⟩
    exact readValue_double x
  | str s =>
    intro bytes h size fuel rest _ hfuel
    have hpos := List.length_pos_of_ne_nil (textBytes_ne_nil h)
    obtain ⟨fuel, rfl⟩ : ∃ n, fuel = n + 1 := ⟨fuel - 1, by omega⟩
    exact readValue_textBytes h size fuel rest
  | @list items hdata ih =>
    intro bytes h size fuel rest hsize hfuel
    obtain ⟨hlength, body, hbody, rfl⟩ := eq_of_write_list_eq_ok h
    have hhead := List.length_pos_of_ne_nil (listHead_ne_nil items.length)
    have hcount := length_le_of_writeItems hdata hbody
    rw [List.length_append] at hsize hfuel
    obtain ⟨fuel, rfl⟩ : ∃ n, fuel = n + 2 := ⟨fuel - 2, by omega⟩
    rw [List.append_assoc, readValue_listHead hlength, readList, if_neg (by omega)]
    have hread := readItems_write hdata ih hbody (show _ ≤ size by omega)
      (show _ ≤ fuel by omega) rest
    simp only [bind, Except.bind, hread]
  | @object members distinct hdata ih =>
    intro bytes h size fuel rest hsize hfuel
    obtain ⟨hlength, body, hbody, rfl⟩ := eq_of_write_object_eq_ok h
    have hhead := List.length_pos_of_ne_nil (objectHead_ne_nil members.length)
    have hcount := length_le_of_writeMembers hdata hbody
    rw [List.length_append] at hsize hfuel
    obtain ⟨fuel, rfl⟩ : ∃ n, fuel = n + 2 := ⟨fuel - 2, by omega⟩
    rw [List.append_assoc, readValue_objectHead hlength, readObject, if_neg (by omega)]
    have hread := readEntries_write hdata ih hbody (show _ ≤ size by omega)
      (show _ ≤ fuel by omega) rest
    simp only [bind, Except.bind, hread, Members.ofEntries_eq_self distinct]

/-! ### Whole texts -/

/-- **Bytes that are written as one value are read as the value.** -/
theorem read_write {v : Value} {double : Binary64 → Prop} (hv : v.IsData double)
    {bytes : List UInt8} (h : write v = .ok bytes) : read bytes = .ok v := by
  have hread := readsBack hv bytes h bytes.length (3 * bytes.length + 3) [] le_rfl (by omega)
  rw [List.append_nil] at hread
  rw [read]
  simp only [bind, Except.bind, hread, List.isEmpty_nil, if_true]

end DocView.MessagePack
