import DocView.Proofs.Json.NumeralText
import DocView.Proofs.Json.Text
import DocView.Proofs.Value.Strings
import Mathlib.Data.List.Forall2

/-!
# JSON is read back

What the reader needs to know about the writer is little. Between the parts of a container there
is a comma or a colon and otherwise space, whatever the style. No value starts with a space or with
a closing bracket, so skipping space stops where the next value starts, and a container that has
parts is not taken for an empty one. And what follows a value never goes on with a numeral.

The reader takes fuel. Every call that it makes has used up a character, and two calls may come
for one character, so twice the length of what is written is enough; in this form the bound goes
through the induction.

What is read need not be what was written. A value may be written in which a name comes twice, and
it is read merged. So the lemmas about containers are about a value and what it is read as, part by
part.

## Main definitions

* `Json.Style.Readable` - styles that put nothing but space around commas and colons
* `Json.StartsValue` - texts that start as a value does
* `Json.ReadsAs` - what a written value is read as with enough fuel
* `Json.ReadsDouble` - doubles that are read back

## Main results

* `Json.readsAs_mapTexts` - a value whose texts were changed is read merged
* `Json.read_render` - a text that is written as one value is read as the value
-/

namespace DocView.Json

open Value (IsData)

/-! ### Space -/

/-- A text of space. -/
def IsSpace (cs : List Char) : Prop := ∀ c ∈ cs, isSpace c = true

/-- The first character of a value: no space, no bracket that closes a container and no byte order
mark. -/
def StartsValue (cs : List Char) : Prop :=
  ∃ c more, cs = c :: more ∧ isSpace c = false ∧ c ≠ ']' ∧ c ≠ '\x7d' ∧ c ≠ '\ufeff'

section

variable {space cs rest : List Char}

theorem skipSpace_append (hspace : IsSpace space) (rest : List Char) :
    skipSpace (space ++ rest) = skipSpace rest :=
  List.dropWhile_append_of_pos hspace

theorem skipSpace_cons {c : Char} (hc : isSpace c = false) (rest : List Char) :
    skipSpace (c :: rest) = c :: rest :=
  List.dropWhile_cons_of_neg (by simp [hc])

theorem StartsValue.append (h : StartsValue cs) (rest : List Char) : StartsValue (cs ++ rest) := by
  obtain ⟨c, more, rfl, hc⟩ := h
  exact ⟨c, more ++ rest, rfl, hc⟩

theorem StartsValue.skipSpace (h : StartsValue cs) : skipSpace cs = cs := by
  obtain ⟨c, more, rfl, hc, -⟩ := h
  exact skipSpace_cons hc more

theorem eq_of_isSpace {c : Char} (hc : isSpace c = true) :
    c = ' ' ∨ c = '\t' ∨ c = '\n' ∨ c = '\r' := by
  simpa [isSpace, or_assoc] using hc

/-- Between the end of a value and the next bracket or comma there is no part of a numeral. -/
theorem endsNumeral_space_append (hspace : IsSpace space) {c : Char}
    (hc : c = ',' ∨ c = ']' ∨ c = '\x7d') : EndsNumeral (space ++ c :: rest) := by
  intro a ha
  cases space with
  | nil =>
    obtain rfl : c = a := Option.some.inj ha
    rcases hc with rfl | rfl | rfl <;> decide
  | cons b more =>
    obtain rfl : b = a := Option.some.inj ha
    rcases eq_of_isSpace (hspace b List.mem_cons_self) with rfl | rfl | rfl | rfl <;> decide

theorem endsNumeral_comma (rest : List Char) : EndsNumeral (',' :: rest) :=
  endsNumeral_space_append (List.forall_mem_nil _) (.inl rfl)

theorem endsNumeral_nil : EndsNumeral [] := fun _ h => (by cases h)

end

/-! ### Styles -/

/-- A style with nothing but space after its commas and colons. -/
structure Style.Readable (style : Style) : Prop where
  /-- After a comma comes space. -/
  comma : ∃ space, style.comma.toList = ',' :: space ∧ IsSpace space
  /-- After a colon comes space. -/
  colon : ∃ space, style.colon.toList = ':' :: space ∧ IsSpace space

theorem Style.readable_indented : Style.indented.Readable :=
  ⟨⟨[], rfl, List.forall_mem_nil _⟩, ⟨[' '], rfl, List.forall_mem_singleton.mpr rfl⟩⟩

theorem Style.readable_spaced : Style.spaced.Readable :=
  ⟨⟨[' '], rfl, List.forall_mem_singleton.mpr rfl⟩, ⟨[' '], rfl, List.forall_mem_singleton.mpr rfl⟩⟩

theorem Style.isSpace_lineBreak (style : Style) (depth : Nat) :
    IsSpace (style.lineBreak depth).toList := by
  unfold Style.lineBreak
  split
  · exact List.forall_mem_nil _
  · intro c hc
    rw [String.toList_ofList] at hc
    rcases List.mem_cons.mp hc with rfl | hc
    · rfl
    · rw [List.eq_of_mem_replicate hc]
      rfl

/-- What stands between two parts of a container: a comma and space. -/
theorem Style.Readable.separator {style : Style} (h : style.Readable) (depth : Nat) :
    ∃ space, (style.comma ++ style.lineBreak depth).toList = ',' :: space ∧ IsSpace space := by
  obtain ⟨space, hcomma, hspace⟩ := h.comma
  refine ⟨space ++ (style.lineBreak depth).toList, ?_, ?_⟩
  · rw [String.toList_append, hcomma, List.cons_append]
  · exact fun c hc => (List.mem_append.mp hc).elim (hspace c) (style.isSpace_lineBreak depth c)

/-- Parts in brackets are the brackets if there are none, and otherwise stand between breaks. -/
theorem Style.toList_enclose (style : Style) (depth : Nat) (opening closing : String)
    {parts : List String} (hparts : parts ≠ []) :
    (style.enclose depth opening closing parts).toList
      = opening.toList ++ ((style.lineBreak (depth + 1)).toList
        ++ ((style.comma ++ style.lineBreak (depth + 1)).intercalate parts).toList
        ++ (style.lineBreak depth).toList ++ closing.toList) := by
  cases parts with
  | nil => exact absurd rfl hparts
  | cons part parts =>
    simp only [Style.enclose, List.isEmpty_cons, Bool.false_eq_true, if_false,
      String.toList_append, List.append_assoc]

/-! ### How a value starts -/

theorem toList_quoted (s : String) :
    (quoted s).toList = '"' :: (s.toList.flatMap escapedChar ++ ['"']) := by
  rw [quoted, String.toList_ofList, List.cons_append]

theorem exists_enclose_eq_cons (style : Style) (depth : Nat) {opening : String} (closing : String)
    {c : Char} (hopening : opening.toList = [c]) (parts : List String) :
    ∃ cs, (style.enclose depth opening closing parts).toList = c :: cs := by
  cases parts with
  | nil => exact ⟨closing.toList, by simp [Style.enclose, hopening]⟩
  | cons part parts =>
    rw [Style.toList_enclose style depth opening closing (List.cons_ne_nil part parts), hopening]
    exact ⟨_, rfl⟩

/-- A text made of the characters of numerals starts like a value, unless it is empty. -/
theorem IsNumeralText.startsValue {cs : List Char} (h : IsNumeralText cs) (hne : cs ≠ []) :
    StartsValue cs := by
  obtain ⟨c, more, rfl⟩ := List.exists_cons_of_ne_nil hne
  have hc : isNumeralChar c = true := h c List.mem_cons_self
  have hother : ∀ a : Char, isNumeralChar a = false → c ≠ a := by
    rintro a ha rfl
    exact absurd hc (by simp [ha])
  refine ⟨c, more, rfl, Bool.eq_false_iff.mpr fun hspace => ?_, hother _ (by decide),
    hother _ (by decide), hother _ (by decide)⟩
  rcases eq_of_isSpace hspace with rfl | rfl | rfl | rfl <;> exact absurd hc (by decide)

theorem startsValue_quoted (s : String) : StartsValue (quoted s).toList :=
  ⟨'"', _, toList_quoted s, by decide⟩

/-- However it is written, a value starts like one. -/
theorem startsValue_renderAt (style : Style) (depth : Nat) (v : Value) :
    StartsValue (renderAt style depth v).toList := by
  cases v with
  | null => exact ⟨'n', ['u', 'l', 'l'], by rw [renderAt]; rfl, by decide⟩
  | bool b =>
    rw [renderAt]
    cases b with
    | false => exact ⟨'f', ['a', 'l', 's', 'e'], rfl, by decide⟩
    | true => exact ⟨'t', ['r', 'u', 'e'], rfl, by decide⟩
  | int n =>
    obtain ⟨c, cs, hcs, -⟩ := exists_intText_eq_cons n
    rw [renderAt]
    exact (isNumeralText_intText n).startsValue (by simp [hcs])
  | float x =>
    rw [renderAt]
    exact (isNumeralText_floatText x).startsValue (floatText_ne_nil x)
  | list form items =>
    rw [renderAt]
    obtain ⟨cs, hcs⟩ := exists_enclose_eq_cons style depth "]" (rfl : "[".toList = ['[']) _
    exact ⟨'[', cs, hcs, by decide⟩
  | object form members =>
    cases form with
    | plain =>
      rw [renderAt]
      obtain ⟨cs, hcs⟩ := exists_enclose_eq_cons style depth "\x7d"
        (rfl : "\x7b".toList = ['\x7b']) _
      exact ⟨'\x7b', cs, hcs, by decide⟩
    | frozen => exact renderAt.eq_def style depth _ ▸ startsValue_quoted _
  | _ => exact renderAt.eq_def style depth _ ▸ startsValue_quoted _

/-! ### Scalars -/

theorem value?_scalar {c : Char} (hquote : c ≠ '"') (hbracket : c ≠ '[') (hbrace : c ≠ '\x7b')
    (fuel : Nat) (cs : List Char) : value? (fuel + 1) (c :: cs) = scalar? (c :: cs) := by
  rw [value?]
  · exact List.cons_ne_nil c cs
  · exact fun _ heq => hquote (List.cons.inj heq).1
  · exact fun _ heq => hbracket (List.cons.inj heq).1
  · exact fun _ heq => hbrace (List.cons.inj heq).1

theorem value?_intText {n : Int} (hn : isTooLong n = false) {rest : List Char}
    (hrest : EndsNumeral rest) (fuel : Nat) :
    value? (fuel + 1) ((intText n).toList ++ rest) = .ok (.int n, rest) := by
  have hread := scalar?_intText hn hrest
  obtain ⟨c, cs, hcs, hc⟩ := exists_intText_eq_cons n
  have hne : ∀ a : Char, a ≠ '-' → a.isDigit = false → c ≠ a := by
    rintro a hminus ha rfl
    rcases hc with heq | hdigit
    · exact hminus heq
    · exact absurd hdigit (by simp [ha])
  rw [hcs, List.cons_append] at hread ⊢
  rw [value?_scalar (hne _ (by decide) rfl) (hne _ (by decide) rfl) (hne _ (by decide) rfl), hread]

theorem value?_quoted (s : String) (fuel : Nat) (rest : List Char) :
    value? (fuel + 1) ((quoted s).toList ++ rest) = .ok (.str s, rest) := by
  rw [toList_quoted, List.cons_append, List.append_assoc, value?]
  simp only [List.cons_append, List.nil_append, text?_quoted]
  rfl

/-! ### Containers

Each call of the reader for the parts of a container reads one part and looks at what comes after
it. -/

section

variable {fuel : Nat} {v : Value} {name : String} {cs after rest : List Char}

theorem items?_last (hv : value? fuel cs = .ok (v, after))
    (hafter : skipSpace after = ']' :: rest) : items? (fuel + 1) cs = .ok ([v], rest) := by
  rw [items?, hv]
  simp only [bind, Except.bind, hafter]

theorem items?_next {vs : List Value} {others : List Char} (hv : value? fuel cs = .ok (v, after))
    (hafter : skipSpace after = ',' :: others)
    (hothers : items? fuel (skipSpace others) = .ok (vs, rest)) :
    items? (fuel + 1) cs = .ok (v :: vs, rest) := by
  rw [items?, hv]
  simp only [bind, Except.bind, hafter, hothers]

theorem value?_list {vs : List Value} {body : List Char} (hskip : skipSpace cs = body)
    (hbody : StartsValue body) (hitems : items? fuel body = .ok (vs, rest)) :
    value? (fuel + 1) ('[' :: cs) = .ok (.array vs, rest) := by
  obtain ⟨c, more, rfl, -, hclosing, -⟩ := hbody
  rw [value?, hskip]
  split
  next heq => exact absurd (List.cons.inj heq).1 hclosing
  next =>
    rw [hitems]
    rfl

theorem members?_last (hv : value? fuel cs = .ok (v, after))
    (hafter : skipSpace after = '\x7d' :: rest) {space : List Char} (hspace : IsSpace space)
    (hcs : skipSpace cs = cs) :
    members? (fuel + 1) ((quoted name).toList ++ ':' :: (space ++ cs))
      = .ok ([(name, v)], rest) := by
  rw [toList_quoted, List.cons_append, List.append_assoc, members?]
  simp only [List.cons_append, List.nil_append, text?_quoted, bind, Except.bind,
    skipSpace_cons (show isSpace ':' = false by decide), skipSpace_append hspace, hcs, hv, hafter]

theorem members?_next {entries : Members} {others : List Char}
    (hv : value? fuel cs = .ok (v, after)) (hafter : skipSpace after = ',' :: others)
    (hothers : members? fuel (skipSpace others) = .ok (entries, rest)) {space : List Char}
    (hspace : IsSpace space) (hcs : skipSpace cs = cs) :
    members? (fuel + 1) ((quoted name).toList ++ ':' :: (space ++ cs))
      = .ok ((name, v) :: entries, rest) := by
  rw [toList_quoted, List.cons_append, List.append_assoc, members?]
  simp only [List.cons_append, List.nil_append, text?_quoted, bind, Except.bind,
    skipSpace_cons (show isSpace ':' = false by decide), skipSpace_append hspace, hcs, hv, hafter,
    hothers]

theorem value?_object {entries : Members} {body : List Char} (hskip : skipSpace cs = body)
    (hbody : StartsValue body) (hmembers : members? fuel body = .ok (entries, rest)) :
    value? (fuel + 1) ('\x7b' :: cs) = .ok (.record (Members.ofEntries entries), rest) := by
  obtain ⟨c, more, rfl, -, -, hclosing, -⟩ := hbody
  rw [value?, hskip]
  split
  next heq => exact absurd (List.cons.inj heq).1 hclosing
  next =>
    rw [hmembers]
    rfl

end

/-! ### Parts in brackets -/

/-- What a written value is read as with enough fuel, whatever ends it. -/
def ReadsAs (style : Style) (v w : Value) : Prop :=
  ∀ depth fuel rest, EndsNumeral rest → 2 * (renderAt style depth v).toList.length ≤ fuel →
    value? fuel ((renderAt style depth v).toList ++ rest) = .ok (w, rest)

/-- Members under the same names, and what their values are read as. -/
def MemberReadsAs (style : Style) (entry entry' : String × Value) : Prop :=
  entry.1 = entry'.1 ∧ ReadsAs style entry.2 entry'.2

section

variable {style : Style} {space : List Char}

/-- The parts of a container with what separates them. -/
def joined (style : Style) (depth : Nat) (parts : List String) : List Char :=
  ((style.comma ++ style.lineBreak depth).intercalate parts).toList

theorem joined_singleton (style : Style) (depth : Nat) (part : String) :
    joined style depth [part] = part.toList := by
  rw [joined, String.intercalate_singleton]

theorem joined_cons_cons (style : Style) (depth : Nat) (part next : String)
    (parts : List String) :
    joined style depth (part :: next :: parts)
      = part.toList ++ ((style.comma ++ style.lineBreak depth).toList
        ++ joined style depth (next :: parts)) := by
  rw [joined, String.intercalate_cons_cons, String.toList_append, String.toList_append, joined,
    List.append_assoc]

theorem exists_joined_cons_cons (hstyle : style.Readable) (depth : Nat) (part next : String)
    (parts : List String) :
    ∃ space, IsSpace space ∧ joined style depth (part :: next :: parts)
      = part.toList ++ ',' :: (space ++ joined style depth (next :: parts)) := by
  obtain ⟨space, hseparator, hspace⟩ := hstyle.separator depth
  exact ⟨space, hspace, by rw [joined_cons_cons, hseparator, List.cons_append]⟩

theorem startsValue_joined (style : Style) (depth : Nat) {part : String}
    (hpart : StartsValue part.toList) (parts : List String) :
    StartsValue (joined style depth (part :: parts)) := by
  cases parts with
  | nil => rwa [joined_singleton]
  | cons next parts =>
    rw [joined_cons_cons]
    exact hpart.append _

/-- A member starts with the quote of its name. -/
theorem startsValue_member (style : Style) (name part : String) :
    StartsValue (quoted name ++ style.colon ++ part).toList := by
  rw [String.toList_append, String.toList_append, toList_quoted]
  exact ⟨'"', _, rfl, by decide⟩

theorem items?_joined (hstyle : style.Readable) (hspace : IsSpace space) (depth : Nat)
    {items ws : List Value} (hne : items ≠ []) (hitems : List.Forall₂ (ReadsAs style) items ws)
    (fuel : Nat)
    (hfuel : 2 * ((joined style depth (renderItems style depth items)).length + space.length + 1)
      ≤ fuel) (rest : List Char) :
    items? fuel (joined style depth (renderItems style depth items) ++ (space ++ ']' :: rest))
      = .ok (ws, rest) := by
  induction hitems generalizing fuel with
  | nil => exact absurd rfl hne
  | @cons v _ more _ hv hmore ih =>
    obtain ⟨fuel, rfl⟩ : ∃ n, fuel = n + 1 := ⟨fuel - 1, by omega⟩
    cases hmore with
    | nil =>
      rw [renderItems, renderItems, joined_singleton] at hfuel ⊢
      refine items?_last
        (hv depth fuel _ (endsNumeral_space_append hspace (.inr (.inl rfl))) (by omega)) ?_
      rw [skipSpace_append hspace, skipSpace_cons (by decide)]
    | @cons w _ more _ =>
      obtain ⟨gap, hgap, hjoined⟩ := exists_joined_cons_cons hstyle depth (renderAt style depth v)
        (renderAt style depth w) (renderItems style depth more)
      have hstart := startsValue_joined style depth (startsValue_renderAt style depth w)
        (renderItems style depth more)
      rw [renderItems, renderItems, hjoined] at hfuel ⊢
      rw [renderItems] at ih
      simp only [List.length_append, List.length_cons] at hfuel
      rw [List.append_assoc, List.cons_append, List.append_assoc]
      refine items?_next (hv depth fuel _ (endsNumeral_comma _) (by omega))
        (skipSpace_cons (by decide) _) ?_
      rw [skipSpace_append hgap, (hstart.append _).skipSpace]
      exact ih (List.cons_ne_nil w more) fuel (by omega)

theorem members?_joined (hstyle : style.Readable) (hspace : IsSpace space) (depth : Nat)
    {members entries : Members} (hne : members ≠ [])
    (hmembers : List.Forall₂ (MemberReadsAs style) members entries) (fuel : Nat)
    (hfuel : 2 * ((joined style depth (renderMembers style depth members)).length + space.length
      + 1) ≤ fuel) (rest : List Char) :
    members? fuel (joined style depth (renderMembers style depth members)
        ++ (space ++ '\x7d' :: rest)) = .ok (entries, rest) := by
  obtain ⟨pad, hcolon, hpad⟩ := hstyle.colon
  induction hmembers generalizing fuel with
  | nil => exact absurd rfl hne
  | @cons entry entry' more _ hentry hmore ih =>
    obtain ⟨name, v⟩ := entry
    obtain ⟨_, v'⟩ := entry'
    obtain ⟨rfl, hv⟩ : name = _ ∧ ReadsAs style v v' := hentry
    obtain ⟨fuel, rfl⟩ : ∃ n, fuel = n + 1 := ⟨fuel - 1, by omega⟩
    have hpart : (quoted name ++ style.colon ++ renderAt style depth v).toList
        = (quoted name).toList ++ ':' :: (pad ++ (renderAt style depth v).toList) := by
      rw [String.toList_append, String.toList_append, hcolon, List.append_assoc, List.cons_append]
    have hstartv : StartsValue (renderAt style depth v).toList := startsValue_renderAt style depth v
    cases hmore with
    | nil =>
      rw [renderMembers, renderMembers, joined_singleton, hpart] at hfuel ⊢
      simp only [List.length_append, List.length_cons] at hfuel
      simp only [List.append_assoc, List.cons_append]
      refine members?_last
        (hv depth fuel _ (endsNumeral_space_append hspace (.inr (.inr rfl))) (by omega)) ?_ hpad
        (hstartv.append _).skipSpace
      rw [skipSpace_append hspace, skipSpace_cons (by decide)]
    | @cons next _ more _ =>
      obtain ⟨gap, hgap, hjoined⟩ := exists_joined_cons_cons hstyle depth
        (quoted name ++ style.colon ++ renderAt style depth v)
        (quoted next.1 ++ style.colon ++ renderAt style depth next.2)
        (renderMembers style depth more)
      have hstart := startsValue_joined style depth
        (startsValue_member style next.1 (renderAt style depth next.2))
        (renderMembers style depth more)
      rw [renderMembers, renderMembers, hjoined, hpart] at hfuel ⊢
      rw [renderMembers] at ih
      simp only [List.length_append, List.length_cons] at hfuel
      simp only [List.append_assoc, List.cons_append]
      refine members?_next (hv depth fuel _ (endsNumeral_comma _) (by omega))
        (skipSpace_cons (by decide) _) ?_ hpad (hstartv.append _).skipSpace
      rw [skipSpace_append hgap, (hstart.append _).skipSpace]
      exact ih (List.cons_ne_nil next more) fuel (by omega)

end

/-! ### Values -/

theorem unwritableItem?_eq_none_iff {items : List Value} :
    unwritableItem? items = none ↔ ∀ v ∈ items, unwritable? v = none := by
  induction items with
  | nil => simp [unwritableItem?]
  | cons v more ih => rw [unwritableItem?, Option.or_eq_none_iff, ih, List.forall_mem_cons]

theorem unwritableMember?_eq_none_iff {members : Members} :
    unwritableMember? members = none ↔ ∀ entry ∈ members, unwritable? entry.2 = none := by
  induction members with
  | nil => simp [unwritableMember?]
  | cons entry more ih => rw [unwritableMember?, Option.or_eq_none_iff, ih, List.forall_mem_cons]

theorem renderItems_eq_map (style : Style) (depth : Nat) (items : List Value) :
    renderItems style depth items = items.map (renderAt style depth) := by
  induction items with
  | nil => rfl
  | cons v more ih => rw [renderItems, ih, List.map_cons]

theorem renderMembers_eq_map (style : Style) (depth : Nat) (members : Members) :
    renderMembers style depth members
      = members.map fun entry => quoted entry.1 ++ style.colon ++ renderAt style depth entry.2 := by
  induction members with
  | nil => rfl
  | cons entry more ih => rw [renderMembers, ih, List.map_cons]

theorem renderItems_ne_nil {style : Style} {depth : Nat} {items : List Value} (h : items ≠ []) :
    renderItems style depth items ≠ [] := by
  rwa [renderItems_eq_map, ne_eq, List.map_eq_nil_iff]

theorem renderMembers_ne_nil {style : Style} {depth : Nat} {members : Members} (h : members ≠ []) :
    renderMembers style depth members ≠ [] := by
  rwa [renderMembers_eq_map, ne_eq, List.map_eq_nil_iff]

theorem startsValue_renderItems (style : Style) (depth : Nat) {items : List Value}
    (h : items ≠ []) : StartsValue (joined style depth (renderItems style depth items)) := by
  cases items with
  | nil => exact absurd rfl h
  | cons v more => exact startsValue_joined style depth (startsValue_renderAt style depth v) _

theorem startsValue_renderMembers (style : Style) (depth : Nat) {members : Members}
    (h : members ≠ []) : StartsValue (joined style depth (renderMembers style depth members)) := by
  cases members with
  | nil => exact absurd rfl h
  | cons entry more => exact startsValue_joined style depth (startsValue_member style _ _) _

/-- Parts in brackets and what follows them. -/
theorem toList_enclose_append (style : Style) (depth : Nat) (opening closing : String) {c d : Char}
    (hopening : opening.toList = [c]) (hclosing : closing.toList = [d]) {parts : List String}
    (hparts : parts ≠ []) (rest : List Char) :
    (style.enclose depth opening closing parts).toList ++ rest
      = c :: ((style.lineBreak (depth + 1)).toList
        ++ (joined style (depth + 1) parts ++ ((style.lineBreak depth).toList ++ d :: rest))) := by
  rw [Style.toList_enclose style depth opening closing hparts, hopening, hclosing, joined]
  simp only [List.append_assoc, List.cons_append, List.nil_append]

/-- The space after an opening bracket ends where the first part starts. -/
theorem skipSpace_lineBreak_append (style : Style) (depth : Nat) {parts : List Char}
    (hparts : StartsValue parts) (rest : List Char) :
    skipSpace ((style.lineBreak depth).toList ++ (parts ++ rest)) = parts ++ rest := by
  rw [skipSpace_append (style.isSpace_lineBreak depth), (hparts.append rest).skipSpace]

section

variable {style : Style} (hstyle : style.Readable)
include hstyle

theorem readsAs_list {items ws : List Value} (hitems : List.Forall₂ (ReadsAs style) items ws) :
    ReadsAs style (.array items) (.array ws) := by
  intro depth fuel rest _ hfuel
  rw [Value.array, renderAt] at hfuel ⊢
  by_cases hne : items = []
  · subst hne
    obtain rfl := List.forall₂_nil_left_iff.mp hitems
    have hempty : (style.enclose depth "[" "]" []).toList = ['[', ']'] := by simp [Style.enclose]
    rw [renderItems, hempty] at hfuel ⊢
    obtain ⟨fuel, rfl⟩ : ∃ n, fuel = n + 1 := ⟨fuel - 1, by simp at hfuel; omega⟩
    rfl
  · have hparts : renderItems style (depth + 1) items ≠ [] := renderItems_ne_nil hne
    have hstart := startsValue_renderItems style (depth + 1) hne
    have hlayout := toList_enclose_append style depth "[" "]" (c := '[') (d := ']') rfl rfl hparts
    have hlength := congrArg List.length (hlayout [])
    simp only [List.length_append, List.length_cons, List.length_nil] at hlength
    obtain ⟨fuel, rfl⟩ : ∃ n, fuel = n + 1 := ⟨fuel - 1, by omega⟩
    rw [hlayout]
    refine value?_list (skipSpace_lineBreak_append style (depth + 1) hstart _) (hstart.append _) ?_
    exact items?_joined hstyle (style.isSpace_lineBreak depth) (depth + 1) hne hitems fuel
      (by omega) rest

theorem readsAs_object {members entries : Members}
    (hmembers : List.Forall₂ (MemberReadsAs style) members entries) :
    ReadsAs style (.record members) (.record (Members.ofEntries entries)) := by
  intro depth fuel rest _ hfuel
  rw [Value.record, renderAt] at hfuel ⊢
  by_cases hne : members = []
  · subst hne
    obtain rfl := List.forall₂_nil_left_iff.mp hmembers
    have hempty : (style.enclose depth "\x7b" "\x7d" []).toList = ['\x7b', '\x7d'] := by
      simp [Style.enclose]
    rw [renderMembers, hempty] at hfuel ⊢
    obtain ⟨fuel, rfl⟩ : ∃ n, fuel = n + 1 := ⟨fuel - 1, by simp at hfuel; omega⟩
    rfl
  · have hparts : renderMembers style (depth + 1) members ≠ [] := renderMembers_ne_nil hne
    have hstart := startsValue_renderMembers style (depth + 1) hne
    have hlayout := toList_enclose_append style depth "\x7b" "\x7d" (c := '\x7b') (d := '\x7d')
      rfl rfl hparts
    have hlength := congrArg List.length (hlayout [])
    simp only [List.length_append, List.length_cons, List.length_nil] at hlength
    obtain ⟨fuel, rfl⟩ : ∃ n, fuel = n + 1 := ⟨fuel - 1, by omega⟩
    have hread := value?_object (skipSpace_lineBreak_append style (depth + 1) hstart _)
      (hstart.append _) (members?_joined hstyle (style.isSpace_lineBreak depth) (depth + 1) hne
        hmembers fuel (by omega) rest)
    rw [hlayout, hread]

end

/-- A double that is read back, whatever ends it. -/
def ReadsDouble (x : Binary64) : Prop :=
  ∀ rest, EndsNumeral rest → scalar? ((floatText x).toList ++ rest) = .ok (.float x, rest)

theorem value?_floatText {x : Binary64} (hx : ReadsDouble x) {rest : List Char}
    (hrest : EndsNumeral rest) (fuel : Nat) :
    value? (fuel + 1) ((floatText x).toList ++ rest) = .ok (.float x, rest) := by
  have hread := hx rest hrest
  obtain ⟨c, cs, hcs⟩ := List.exists_cons_of_ne_nil (floatText_ne_nil x)
  have hc : isNumeralChar c = true := isNumeralText_floatText x c (hcs ▸ List.mem_cons_self)
  have hne : ∀ a : Char, isNumeralChar a = false → c ≠ a := by
    rintro a ha rfl
    exact absurd hc (by simp [ha])
  rw [hcs, List.cons_append] at hread ⊢
  rw [value?_scalar (hne _ (by decide)) (hne _ (by decide)) (hne _ (by decide)), hread]

theorem readsAs_null (style : Style) : ReadsAs style .null .null := by
  intro depth fuel rest _ hfuel
  rw [renderAt] at hfuel ⊢
  obtain ⟨fuel, rfl⟩ : ∃ n, fuel = n + 1 := ⟨fuel - 1, by simp at hfuel; omega⟩
  rfl

theorem readsAs_bool (style : Style) (b : Bool) : ReadsAs style (.bool b) (.bool b) := by
  intro depth fuel rest _ hfuel
  rw [renderAt] at hfuel ⊢
  cases b <;>
  · obtain ⟨fuel, rfl⟩ : ∃ n, fuel = n + 1 := ⟨fuel - 1, by simp at hfuel; omega⟩
    rfl

theorem readsAs_int (style : Style) {n : Int} (hn : isTooLong n = false) :
    ReadsAs style (.int n) (.int n) := by
  intro depth fuel rest hrest hfuel
  rw [renderAt] at hfuel ⊢
  obtain ⟨c, cs, hcs, -⟩ := exists_intText_eq_cons n
  obtain ⟨fuel, rfl⟩ : ∃ n, fuel = n + 1 :=
    ⟨fuel - 1, by rw [hcs, List.length_cons] at hfuel; omega⟩
  exact value?_intText hn hrest fuel

theorem readsAs_float (style : Style) {x : Binary64} (hx : ReadsDouble x) :
    ReadsAs style (.float x) (.float x) := by
  intro depth fuel rest hrest hfuel
  rw [renderAt] at hfuel ⊢
  obtain ⟨c, cs, hcs⟩ := List.exists_cons_of_ne_nil (floatText_ne_nil x)
  obtain ⟨fuel, rfl⟩ : ∃ n, fuel = n + 1 :=
    ⟨fuel - 1, by rw [hcs, List.length_cons] at hfuel; omega⟩
  exact value?_floatText hx hrest fuel

theorem readsAs_str (style : Style) (s : String) : ReadsAs style (.str s) (.str s) := by
  intro depth fuel rest _ hfuel
  rw [renderAt] at hfuel ⊢
  obtain ⟨fuel, rfl⟩ : ∃ n, fuel = n + 1 :=
    ⟨fuel - 1, by rw [toList_quoted, List.length_cons] at hfuel; omega⟩
  exact value?_quoted s fuel rest

/-- **A value whose texts were changed is read merged.** Its doubles have to be read back, and its
integers have to be short enough to be written. -/
theorem readsAs_mapTexts {style : Style} (hstyle : style.Readable) {v : Value}
    (hv : v.IsData ReadsDouble) (hwritable : unwritable? v = none) (f : String → String) :
    ReadsAs style (v.mapTexts f) (v.mapTexts f).merged := by
  induction hv with
  | null => exact readsAs_null style
  | bool b => exact readsAs_bool style b
  | int n =>
    rw [unwritable?] at hwritable
    exact readsAs_int style (by simpa using hwritable)
  | float allowed => exact readsAs_float style allowed
  | str s => exact readsAs_str style (f s)
  | list _ ih =>
    rw [unwritable?, unwritableItem?_eq_none_iff] at hwritable
    rw [Value.mapTexts, Value.mapItemTexts_eq_map, Value.merged, Value.mergedItems_eq_map]
    refine readsAs_list hstyle ?_
    rw [List.forall₂_map_right_iff, List.forall₂_map_left_iff, List.forall₂_map_right_iff,
      List.forall₂_same]
    exact fun v hv => ih v hv (hwritable v hv)
  | object _ _ ih =>
    rw [unwritable?, unwritableMember?_eq_none_iff] at hwritable
    rw [Value.mapTexts, Value.mapMemberTexts_eq_map, Value.merged, Value.mergedMembers_eq_map]
    refine readsAs_object hstyle ?_
    rw [List.forall₂_map_right_iff, List.forall₂_map_left_iff, List.forall₂_map_right_iff,
      List.forall₂_same]
    exact fun entry hentry => ⟨rfl, ih entry hentry (hwritable entry hentry)⟩

/-! ### Whole texts -/

theorem readChars_eq_ok {cs : List Char} {v : Value} (hstart : StartsValue cs)
    (hread : value? (2 * cs.length + 2) cs = .ok (v, [])) : readChars cs = .ok v := by
  obtain ⟨c, more, rfl, hspace, -, -, hmark⟩ := hstart
  rw [readChars]
  · rw [skipSpace_cons hspace, hread]
    rfl
  · exact fun _ heq => hmark (List.cons.inj heq).1

/-- **A text that is written as one value is read as the value**, merged if its texts were
changed. -/
theorem read_render_mapTexts {style : Style} (hstyle : style.Readable) {v : Value}
    (hv : v.IsData ReadsDouble) (hwritable : unwritable? v = none) (f : String → String) :
    read (render style (v.mapTexts f)) = .ok (v.mapTexts f).merged := by
  have hread := readsAs_mapTexts hstyle hv hwritable f 0
    (2 * (renderAt style 0 (v.mapTexts f)).toList.length + 2) [] endsNumeral_nil (by omega)
  rw [List.append_nil] at hread
  rw [read, render, readChars_eq_ok (startsValue_renderAt style 0 _) hread]

theorem read_render {style : Style} (hstyle : style.Readable) {v : Value}
    (hv : v.IsData fun _ => False) (hwritable : unwritable? v = none) :
    read (render style v) = .ok v := by
  have hdouble : v.IsData ReadsDouble := hv.mono fun _ h => h.elim
  have hsame : v.mapTexts id = v := Value.mapTexts_eq_self fun _ _ => rfl
  have hread := read_render_mapTexts hstyle hdouble hwritable id
  rwa [hsame, Value.merged_eq_self hv] at hread

end DocView.Json
