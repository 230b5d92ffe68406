import DocView.Proofs.Json.Quoted
import DocView.Proofs.Text.Split
import DocView.Proofs.Value.Form
import DocView.Value.Text

/-!
# The text of an object

The text of a plain object is the object as JSON. A frozen object has no JSON form, so its text is
a JSON text instead: the display of the object, in quotes. Cut at commas, the two never list the
same items. The first item of the plain text starts with the brace and the quote of the first name,
and nowhere in a quoted text does a quote follow a brace.

## Main results

* `Value.exists_commaItem_notMem_freeze`
-/

namespace DocView.Value

/-- The text of an object starts with a brace and the quote of its first name. -/
theorem toList_text_record_cons (entry : String × Value) (members : Members) :
    ∃ rest, (text (.record (entry :: members))).toList = '\x7b' :: '"' :: rest := by
  have hquoted : ∃ rest, (Json.quoted entry.1).toList = '"' :: rest := by
    rw [Json.quoted, String.toList_ofList]
    exact ⟨_, rfl⟩
  obtain ⟨name, hname⟩ := hquoted
  have hparts : ∃ part parts, Json.renderMembers .compact 1 (entry :: members) = part :: parts ∧
      ∃ rest, part.toList = '"' :: rest := by
    refine ⟨_, _, rfl, ?_⟩
    rw [String.toList_append, String.toList_append, hname]
    exact ⟨_, rfl⟩
  obtain ⟨part, parts, hrender, rest, hpart⟩ := hparts
  show ∃ rest, (Json.Style.enclose .compact 0 "\x7b" "\x7d"
    (Json.renderMembers .compact 1 (entry :: members))).toList = _
  have hjoined : ∃ rest, ((",".intercalate (part :: parts)).toList) = '"' :: rest := by
    cases parts with
    | nil => exact ⟨rest, by rw [String.intercalate_singleton, hpart]⟩
    | cons next parts =>
      rw [String.intercalate_cons_cons, String.toList_append, String.toList_append, hpart]
      exact ⟨_, rfl⟩
  obtain ⟨joined, hjoined⟩ := hjoined
  have henclose : Json.Style.enclose .compact 0 "\x7b" "\x7d" (part :: parts)
      = "\x7b" ++ "" ++ ("," ++ "").intercalate (part :: parts) ++ "" ++ "\x7d" := rfl
  rw [hrender, henclose]
  simp only [String.append_empty, String.toList_append, hjoined]
  exact ⟨_, rfl⟩

theorem text_freeze_record (members : Members) :
    (record members).freeze.text = Json.quoted (record members).freeze.display := by
  rw [freeze, withForm_object]
  rfl

/-- The display of an object ends in its closing brace. -/
theorem getLast?_display_object (form : Form) (members : Members) :
    (display (.object form members)).toList.getLast? = some '\x7d' := by
  rw [display, braced, String.toList_append, List.getLast?_append]
  rfl

/-- **A plain object lists an item that its frozen copy does not.** -/
theorem exists_commaItem_notMem_freeze (members : Members) :
    ∃ item ∈ Text.commaItems (record members).text,
      item ∉ Text.commaItems (record members).freeze.text := by
  cases members with
  | nil => exact ⟨"\x7b\x7d", by decide, by decide⟩
  | cons entry members =>
    obtain ⟨rest, htext⟩ := toList_text_record_cons entry members
    obtain ⟨item, hitem, hstart⟩ := Text.exists_commaItem_startsWith htext (by decide) (by decide)
      (by decide) (by decide)
    refine ⟨item, hitem, fun hmem => ?_⟩
    rw [text_freeze_record] at hmem
    have hlast : (record (entry :: members)).freeze.display.toList.getLast? ≠ some '\x7b' := by
      rw [freeze, withForm_object, getLast?_display_object]
      decide
    exact Json.not_brace_quote_infix_quoted hlast
      (hstart.isInfix.trans (Text.infix_of_mem_commaItems hmem))

end DocView.Value
