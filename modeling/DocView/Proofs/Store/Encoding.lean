import DocView.Proofs.Json.RoundTrip
import DocView.Proofs.MessagePack.RoundTrip
import DocView.Store.Format

/-!
# Encoded records are decoded

The decoder has two ways to go: bytes that are all white space hold no records, and any other bytes
are read. A list is never all white space, since a JSON list starts with a bracket and the tags of
MessagePack lists are above every white space byte, so encoded records are always read, and the
reader of each format gives the list back.

JSON is written with the doubles in their shortest form, which is not looked into here; the other
format keeps them bit by bit.

## Main definitions

* `Format.Carries` - the doubles that may be among the records

## Main results

* `Format.decode_encode_records` - what was encoded is decoded to the same records
-/

namespace DocView.Format

open Value (IsData)

/-- The doubles that may be among the records of a format. -/
def Carries : Format → Binary64 → Prop
  | .json, _ => False
  | .messagePack, x => x.isFinite = true

/-! ### Encoded lists are no white space -/

theorem isBlankByte_tag {tag : Nat} (hlow : 0x80 ≤ tag) (hhigh : tag < 0x100) :
    isBlankByte (UInt8.ofNat tag) = false := by
  have htag : (UInt8.ofNat tag).toNat = tag := UInt8.toNat_ofNat_of_lt' hhigh
  have hne : UInt8.ofNat tag ≠ 32 := fun heq => by
    have := congrArg UInt8.toNat heq
    simp only [htag, UInt8.reduceToNat] at this
    omega
  have hlarge : ¬ UInt8.ofNat tag ≤ 13 := fun hle => by
    have := UInt8.le_iff_toNat_le.mp hle
    simp only [htag, UInt8.reduceToNat] at this
    omega
  simp [isBlankByte, hne, hlarge]

theorem all_isBlankByte_cons {b : UInt8} (hb : isBlankByte b = false) (bytes : List UInt8) :
    (b :: bytes).all isBlankByte = false := by
  rw [List.all_cons, hb, Bool.false_and]

theorem all_isBlankByte_listHead (length : Nat) (bytes : List UInt8) :
    (MessagePack.listHead length ++ bytes).all isBlankByte = false := by
  unfold MessagePack.listHead
  split_ifs with hlength
  · exact all_isBlankByte_cons (isBlankByte_tag (by omega) (by omega)) _
  · exact all_isBlankByte_cons (isBlankByte_tag (by decide) (by decide)) _
  · exact all_isBlankByte_cons (isBlankByte_tag (by decide) (by decide)) _

theorem all_isBlankByte_render (items : List Value) :
    (Utf8.encode (Json.render .indented (.array items))).all isBlankByte = false := by
  obtain ⟨more, hmore⟩ : ∃ more, Json.render .indented (.array items) = "[" ++ more := by
    rw [Json.render, Value.array, Json.renderAt, Json.Style.enclose]
    split_ifs
    · exact ⟨"]", rfl⟩
    · exact ⟨_, by rw [String.append_assoc, String.append_assoc, String.append_assoc]⟩
  have hstart : Utf8.encode (Json.render .indented (.array items)) = 91 :: Utf8.encode more := by
    rw [hmore, Utf8.encode_append]
    rfl
  rw [hstart]
  exact all_isBlankByte_cons rfl _

/-! ### Reading what was written -/

theorem decode_eq_ok {format : Format} {bytes : List UInt8} {items : List Value}
    (hblank : bytes.all isBlankByte = false)
    (hread : format.decodeValue bytes = .ok (.array items)) : format.decode bytes = .ok items := by
  rw [decode, hblank, hread]
  rfl

theorem decode_encode_json {records : List Value}
    (hrecords : ∀ v ∈ records, v.IsData json.Carries) {bytes : List UInt8}
    (h : json.encode (.array records) = .ok bytes) : json.decode bytes = .ok records := by
  rw [encode, Json.write?] at h
  cases hpart : Json.unwritable? (.array records) with
  | some part =>
    rw [hpart] at h
    cases h
  | none =>
    rw [hpart] at h
    obtain rfl := Except.ok.inj h
    refine decode_eq_ok (all_isBlankByte_render records) ?_
    rw [decodeValue, Utf8.decode_encode]
    simp only [Json.read_render Json.Style.readable_indented (.list hrecords) hpart]

theorem decode_encode_messagePack {records : List Value}
    (hrecords : ∀ v ∈ records, v.IsData messagePack.Carries) {bytes : List UInt8}
    (h : messagePack.encode (.array records) = .ok bytes) :
    messagePack.decode bytes = .ok records := by
  have hwrite : MessagePack.write (.array records) = .ok bytes := by
    rw [encode] at h
    split at h
    next hwrite => exact hwrite.trans (congrArg Except.ok (Except.ok.inj h))
    next => cases h
    next => cases h
  obtain ⟨-, body, -, rfl⟩ := MessagePack.eq_of_write_list_eq_ok hwrite
  refine decode_eq_ok (all_isBlankByte_listHead _ _) ?_
  have hread : Unpacker.standard (MessagePack.listHead records.length ++ body)
      = .ok (.array records) := by
    rw [Unpacker.standard, MessagePack.read_write (.list hrecords) hwrite]
    rfl
  rw [decodeValue, hread]

/-- **What was encoded is decoded to the same records**, with their values, nesting and order. -/
theorem decode_encode_records {format : Format} {records : List Value}
    (hrecords : ∀ v ∈ records, v.IsData format.Carries) {bytes : List UInt8}
    (h : format.encode (.array records) = .ok bytes) : format.decode bytes = .ok records := by
  cases format with
  | json => exact decode_encode_json hrecords h
  | messagePack => exact decode_encode_messagePack hrecords h

/-- A record with an escape, a character beyond the basic plane, and values in a value. -/
def nestedRecords : List Value :=
  [.record [("a\n", .array [.int (-129), .bool true]), ("😀", .null)]]

/-- The record as JSON. -/
def nestedText : String :=
  "[\n  \x7b\n    \"a\\n\": [\n      -129,\n      true\n    ],\n"
    ++ "    \"\\ud83d\\ude00\": null\n  \x7d\n]"

/-- The record as MessagePack. -/
def nestedBytes : List UInt8 :=
  [0x91, 0x82, 0xA2, 97, 10, 0x92, 0xD1, 0xFF, 0x7F, 0xC3, 0xA4, 240, 159, 152, 128, 0xC0]

theorem decode_encode_records_nested :
    (∀ format : Format, ∀ v ∈ nestedRecords, v.IsData format.Carries)
      ∧ json.encode (.array nestedRecords) = .ok (Utf8.encode nestedText)
      ∧ json.decode (Utf8.encode nestedText) = .ok nestedRecords
      ∧ messagePack.encode (.array nestedRecords) = .ok nestedBytes
      ∧ messagePack.decode nestedBytes = .ok nestedRecords := by
  have hrecords : ∀ format : Format, ∀ v ∈ nestedRecords, v.IsData format.Carries := by
    intro format v hv
    obtain rfl := List.mem_singleton.mp hv
    refine .object (by decide) ?_
    simp only [List.forall_mem_cons, List.not_mem_nil, false_implies, implies_true, and_true]
    refine ⟨.list ?_, .null⟩
    simp only [List.forall_mem_cons, List.not_mem_nil, false_implies, implies_true, and_true]
    exact ⟨.int _, .bool _⟩
  have hjson : json.encode (.array nestedRecords) = .ok (Utf8.encode nestedText) := by
    decide +kernel
  have hpacked : messagePack.encode (.array nestedRecords) = .ok nestedBytes := by
    decide +kernel
  exact ⟨hrecords, hjson, decode_encode_records (hrecords .json) hjson, hpacked,
    decode_encode_records (hrecords .messagePack) hpacked⟩

end DocView.Format
