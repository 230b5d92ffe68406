import DocView.Proofs.Coercion
import DocView.Proofs.Json.Digits
import DocView.Proofs.Query.Text

/-!
# Queries from texts of any kind

A text that is to be a query may hold anything. It may be no JSON at all, or JSON of some other
shape, and where it is an object its members may hold what they like. Most of that does no harm.
The reader says where a text is at fault, the shape of an object is checked, and what is left is
read leniently: a limit that is no limit becomes the default, and fields and orders that are not
understood are passed over. What comes out is a query that makes sense, or the one error for
queries that cannot be parsed.

There is one way around that error. An integer with more digits than an integer text may have is
refused where it is read, and nobody catches that. It is read in two places: by the reader, wherever
it stands in the text, and once more from a limit that is given as text. The theorem says exactly
when that happens. In either place there is a run of digits to be pointed at, so a text without
so long a run, and without escapes that make one of a limit, has nothing but the one error.

## Main definitions

* `Query.IsAdmissible` - queries that make sense
* `Query.IsWhole` - objects that are taken for whole queries
* `Query.Overlong` - texts with an integer that is refused

## Main results

* `Query.ofMembers_of_isWhole` - reading the members of a whole query fails in its limit only
* `Query.parse_text_outcome` - what can come of a text
-/

namespace DocView

theorem Direction.name_eq (direction : Direction) :
    direction.name = "asc" ∨ direction.name = "desc" := by
  cases direction
  · exact .inl rfl
  · exact .inr rfl

namespace Query

/-! ### Queries that make sense -/

/-- A query that makes sense, as its object form shows it. -/
structure IsAdmissible (q : Query) : Prop where
  /-- The limit is an integer of at least one. -/
  limit : ∃ n : Int, 1 ≤ n ∧ Members.get? q.entries "limit" = some (.int n)
  /-- There are no fields, or there are some, which are texts and not empty. -/
  fields : Members.get? q.entries "fields" = none ∨
    ∃ names : List String, names ≠ [] ∧ (∀ s ∈ names, s ≠ "") ∧
      Members.get? q.entries "fields" = some (.array (names.map .str))
  /-- There is no order, or there is one, in which every direction is one of the two. -/
  sort : Members.get? q.entries "sort" = none ∨
    ∃ order : List (String × String), order ≠ [] ∧
      (∀ entry ∈ order, entry.2 = "asc" ∨ entry.2 = "desc") ∧
      Members.get? q.entries "sort"
        = some (.array (order.map fun entry => .record [(entry.1, .str entry.2)]))

variable {q : Query} {form : Form} {members : Members} {requested default : Value} {n : Int}

theorem get?_entries_fields (q : Query) : Members.get? q.entries "fields"
    = if q.fields.isEmpty then none else some (.array q.fields) := by
  unfold entries
  cases q.fields <;> cases q.sort <;> rfl

theorem get?_entries_sort (q : Query) : Members.get? q.entries "sort"
    = if q.sort.isEmpty then none else some (.array (q.sort.map sortEntry)) := by
  unfold entries
  cases q.fields <;> cases q.sort <;> rfl

theorem exists_names_of_isFieldName {fields : List Value} (h : ∀ f ∈ fields, isFieldName f) :
    ∃ names : List String, (∀ s ∈ names, s ≠ "") ∧ fields = names.map .str := by
  induction fields with
  | nil => exact ⟨[], by simp, rfl⟩
  | cons f rest ih =>
    obtain ⟨hf, hrest⟩ := List.forall_mem_cons.mp h
    obtain ⟨names, hnames, rfl⟩ := ih hrest
    cases f with
    | str s =>
      have hs : s ≠ "" := by simpa [isFieldName] using hf
      exact ⟨s :: names, List.forall_mem_cons.mpr ⟨hs, hnames⟩, rfl⟩
    | _ => contradiction

theorem isAdmissible_of (hn : 1 ≤ n) (hlimit : q.limit = .int n)
    (hfields : ∀ f ∈ q.fields, isFieldName f) : q.IsAdmissible where
  limit := ⟨n, hn, hlimit ▸ rfl⟩
  fields := by
    rw [get?_entries_fields]
    obtain ⟨names, hnames, hmap⟩ := exists_names_of_isFieldName hfields
    rw [hmap]
    cases names with
    | nil => exact .inl rfl
    | cons s rest => exact .inr ⟨s :: rest, List.cons_ne_nil s rest, hnames, rfl⟩
  sort := by
    rw [get?_entries_sort]
    cases hsort : q.sort with
    | nil => exact .inl rfl
    | cons entry rest =>
      refine .inr ⟨q.sort.map fun entry => (entry.1, entry.2.name), ?_, ?_, ?_⟩
      · simp [hsort]
      · exact List.forall_mem_map.mpr fun entry _ => Direction.name_eq entry.2
      · rw [List.map_map, hsort]
        rfl

/-! ### Limits -/

/-- A limit is refused if its coercion is. -/
theorem limitOr_eq_error_iff {e : Error} :
    limitOr requested default = .error e ↔ coerceInteger requested = .error e := by
  rw [limitOr, bind_eq_error]
  refine ⟨fun h => h.elim id ?_, .inl⟩
  rintro ⟨asked, -, h⟩
  cases asked <;> cases h

theorem limitOr_eq_error {e : Error} : limitOr requested default = .error e ↔
    ∃ text count, requested = .str text ∧
      Text.leadingInteger? text = some (.error (.tooManyDigits count)) ∧
      e = .tooManyDigits count := by
  rw [limitOr_eq_error_iff, coerceInteger_eq_error_iff]
  constructor
  · rintro ⟨count, hrefused, rfl⟩
    obtain ⟨text, _, _, rfl, -, -, -⟩ := id hrefused
    exact ⟨text, count, rfl, isOverlongInteger_str_iff.mp hrefused, rfl⟩
  · rintro ⟨text, count, rfl, hlong, rfl⟩
    exact ⟨count, isOverlongInteger_str_iff.mpr hlong, rfl⟩

/-! ### Whole queries -/

/-- Objects that are taken for whole queries. -/
structure IsWhole (members : Members) : Prop where
  /-- The selector is an object. -/
  selector : ∃ form inner, Members.get? members "selector" = some (.object form inner)
  /-- Fields and order are lists, where they are given. -/
  lists : ∀ name ∈ listMembers,
    Value.member members name = .null ∨ ∃ items, Value.member members name = .array items

theorem checkList_eq_ok {name : String} (h : Value.member members name = .null ∨
    ∃ items, Value.member members name = .array items) : checkList members name = .ok () := by
  unfold checkList
  rcases h with hnull | ⟨items, hlist⟩
  · rw [hnull]
  · rw [hlist]

theorem checkList_eq_error {name : String} (h : ¬ (Value.member members name = .null ∨
    ∃ items, Value.member members name = .array items)) :
    checkList members name = .error (.queryMemberNotList name) := by
  unfold checkList
  split
  next hnull => exact absurd (.inl hnull) h
  next items hlist => exact absurd (.inr ⟨items, hlist⟩) h
  next => rfl

theorem ofObject_of_isWhole (h : IsWhole members) (form : Form) (default : Value) :
    ofObject (.object form members) default = ofMembers members default := by
  obtain ⟨_, _, hget⟩ := h.selector
  have hfields := checkList_eq_ok (h.lists "fields" (by decide))
  have hsort := checkList_eq_ok (h.lists "sort" (by decide))
  rw [ofObject, hget]
  show (listMembers.mapM (checkList members) >>= fun _ => ofMembers members default) = _
  rw [listMembers, List.mapM_cons, List.mapM_cons, hfields, hsort]
  rfl

/-- **Reading the members of a whole query fails in its limit only.** -/
theorem ofMembers_of_isWhole (h : IsWhole members) : ∃ query : Value → Query, ∀ default,
    ofMembers members default
      = (do .ok (query (← limitOr (Value.member members "limit") default))) := by
  obtain ⟨form, inner, hget⟩ := h.selector
  have hlist : ∀ name ∈ listMembers,
      ∃ items, ((Value.member members name).orElse (.array [])).elements? = .ok items := by
    intro name hname
    rcases h.lists name hname with hnull | ⟨items, hitems⟩
    · exact ⟨[], by rw [hnull]; rfl⟩
    · rw [hitems]
      exact ⟨items, by cases items <;> rfl⟩
  obtain ⟨fields, hfields⟩ := hlist "fields" (by decide)
  obtain ⟨sort, hsort⟩ := hlist "sort" (by decide)
  have hselector :
      selectorOf (Value.member members "selector") = .ok (Members.ofEntries inner) := by
    have hmember : Value.member members "selector" = .object form inner := by
      rw [Value.member, hget]
      rfl
    rw [hmember, selectorOf_object]
  refine ⟨fun limit => ofSelector (Members.ofEntries inner) limit (fields.filter isFieldName)
    (sort.flatMap sortOf), fun default => ?_⟩
  rw [ofMembers, hfields, hsort, hselector]
  cases limitOr (Value.member members "limit") default <;> rfl

/-- An object without a selector is one itself, and one with a selector is a whole query. Any other
value is no query. -/
theorem ofObject_cases (v : Value) :
    (∃ members, ∀ default, ofObject v default = .ok (ofSelector members default [] [])) ∨
    (∃ form members, v = .object form members ∧ IsWhole members) ∨
    ∃ e : Error, e.category = .queryParse ∧ ∀ default, ofObject v default = .error e := by
  cases v with
  | object form members =>
    unfold ofObject
    dsimp only
    split
    next => exact .inl ⟨members, fun _ => rfl⟩
    next inner hget =>
      by_cases hfields : Value.member members "fields" = .null ∨
          ∃ items, Value.member members "fields" = .array items
      · by_cases hsort : Value.member members "sort" = .null ∨
            ∃ items, Value.member members "sort" = .array items
        · refine .inr (.inl ⟨form, members, rfl, ⟨_, _, hget⟩, ?_⟩)
          simp only [listMembers, List.forall_mem_cons]
          exact ⟨hfields, hsort, List.forall_mem_nil _⟩
        · rw [listMembers, List.mapM_cons, List.mapM_cons, checkList_eq_ok hfields,
            checkList_eq_error hsort]
          exact .inr (.inr ⟨_, rfl, fun _ => rfl⟩)
      · rw [listMembers, List.mapM_cons, checkList_eq_error hfields]
        exact .inr (.inr ⟨_, rfl, fun _ => rfl⟩)
    next => exact .inr (.inr ⟨_, rfl, fun _ => rfl⟩)
  | _ => exact .inr (.inr ⟨.queryNotObject _, rfl, fun _ => rfl⟩)

/-! ### Texts -/

/-- Texts of whole queries whose limit is itself a text, which starts with an integer of so many
digits that it is refused. -/
def HasLongLimit (s : String) (count : Nat) : Prop :=
  ∃ form members text, Json.read (withoutFences s) = .ok (.object form members) ∧
    IsWhole members ∧ Value.member members "limit" = .str text ∧
    Text.leadingInteger? text = some (.error (.tooManyDigits count))

/-- Texts with an integer of so many digits that it is refused: by the reader, or as a limit. -/
def Overlong (s : String) (count : Nat) : Prop :=
  Json.read (withoutFences s) = .error (.tooManyDigits count) ∨ HasLongLimit s count

variable {s : String} {count : Nat}

theorem Overlong.tooMany (h : Overlong s count) : Text.maxDigits < count := by
  rcases h with hread | ⟨_, _, _, -, -, -, hlong⟩
  · exact (Json.hasRun_of_read hread).tooMany
  · exact (isOverlongInteger_str_iff.mpr hlong).tooMany

theorem parse_of_read {v : Value} (h : Json.read (withoutFences s) = .ok v) (default : Value) :
    parse (.str s) default = ofObject v default := by
  have hne : withoutFences s ≠ "" := by
    intro hempty
    rw [hempty] at h
    cases h
  show ofText s default = _
  rw [ofText, if_neg hne, h]

theorem parse_of_overlong (h : Overlong s count) (default : Value) :
    parse (.str s) default = .error (.tooManyDigits count) := by
  rcases h with hread | ⟨form, members, text, hread, hwhole, hlimit, hlong⟩
  · have hne : withoutFences s ≠ "" := by
      intro hempty
      rw [hempty] at hread
      cases hread
    show ofText s default = _
    rw [ofText, if_neg hne, hread]
  · obtain ⟨query, hquery⟩ := ofMembers_of_isWhole hwhole
    have hrefused :
        limitOr (Value.member members "limit") default = .error (.tooManyDigits count) :=
      limitOr_eq_error.mpr ⟨text, count, hlimit, hlong, rfl⟩
    rw [parse_of_read hread, ofObject_of_isWhole hwhole, hquery, hrefused]
    rfl

/-- A text is a query that makes sense, no query, or overlong. -/
theorem parse_text_cases (s : String) (hn : 1 ≤ n) :
    (∃ q, parse (.str s) (.int n) = .ok q ∧ q.IsAdmissible) ∨
    (∃ e : Error, parse (.str s) (.int n) = .error e ∧ e.category = .queryParse) ∨
    ∃ count, parse (.str s) (.int n) = .error (.tooManyDigits count) ∧ Overlong s count := by
  by_cases hempty : withoutFences s = ""
  · have htext : parse (.str s) (.int n) = .error .queryTextEmpty := if_pos hempty
    exact .inr (.inl ⟨_, htext, rfl⟩)
  have htext : parse (.str s) (.int n) = _ := if_neg hempty
  cases hread : Json.read (withoutFences s) with
  | error fault =>
    rw [hread] at htext
    cases fault with
    | syntaxFault fault => exact .inr (.inl ⟨_, htext, rfl⟩)
    | tooManyDigits count => exact .inr (.inr ⟨count, htext, .inl hread⟩)
  | ok v =>
    rw [parse_of_read hread]
    rcases ofObject_cases v with ⟨members, hbare⟩ | ⟨form, members, rfl, hwhole⟩ | ⟨e, he, herror⟩
    · exact .inl ⟨_, hbare _, isAdmissible_of hn rfl fun _ hf => absurd hf List.not_mem_nil⟩
    · rw [ofObject_of_isWhole hwhole]
      cases hq : ofMembers members (.int n) with
      | ok q =>
        have hcanonical := isCanonical_of_ofMembers hn hq
        obtain ⟨m, hm, hlimit⟩ := hcanonical.limit
        exact .inl ⟨q, rfl, isAdmissible_of hm hlimit hcanonical.fields⟩
      | error e =>
        obtain ⟨query, hquery⟩ := ofMembers_of_isWhole hwhole
        have hrefused : limitOr (Value.member members "limit") (.int n) = .error e := by
          rw [hquery, bind_eq_error] at hq
          rcases hq with hlimit | ⟨limit, -, h⟩
          · exact hlimit
          · cases h
        obtain ⟨text, count, hlimit, hlong, rfl⟩ := limitOr_eq_error.mp hrefused
        exact .inr (.inr ⟨count, rfl, .inr ⟨form, members, text, hread, hwhole, hlimit, hlong⟩⟩)
    · exact .inr (.inl ⟨e, herror _, he⟩)

/-- **What can come of a text.** Let the default limit be at least one. A text is read as a query
that makes sense, or it is refused as a query that cannot be parsed, or one of its integers is
refused. The last is the case for the texts that are overlong and for no others: the integer has
more digits than an integer text may have, and they stand in a row in the text that the reader was
given, or at the start of a limit that is a text. -/
theorem parse_text_outcome (s : String) (hn : 1 ≤ n) :
    (∀ q, parse (.str s) (.int n) = .ok q → q.IsAdmissible) ∧
    (∀ e, parse (.str s) (.int n) = .error e →
      e.category = .queryParse ∨ ∃ count, e = .tooManyDigits count) ∧
    (∀ count, parse (.str s) (.int n) = .error (.tooManyDigits count) ↔ Overlong s count) ∧
    (∀ count, Overlong s count → Text.maxDigits < count ∧
      (Json.HasRun count (withoutFences s).toList ∨ HasLongLimit s count)) := by
  have hcases := parse_text_cases s hn
  refine ⟨fun q hq => ?_, fun e he => ?_, fun count => ⟨fun hlong => ?_, fun h => ?_⟩,
    fun count h => ⟨h.tooMany, h.imp_left Json.hasRun_of_read⟩⟩
  · rcases hcases with ⟨q', hq', hadmissible⟩ | ⟨e, he, -⟩ | ⟨count, hlong, -⟩
    · obtain rfl := Except.ok.inj (hq.symm.trans hq')
      exact hadmissible
    · cases hq.symm.trans he
    · cases hq.symm.trans hlong
  · rcases hcases with ⟨q, hq, -⟩ | ⟨e', he', hcategory⟩ | ⟨count, hlong, -⟩
    · cases he.symm.trans hq
    · obtain rfl := Except.error.inj (he.symm.trans he')
      exact .inl hcategory
    · exact .inr ⟨count, Except.error.inj (he.symm.trans hlong)⟩
  · rcases hcases with ⟨q, hq, -⟩ | ⟨e, he, hcategory⟩ | ⟨count', hlong', hoverlong⟩
    · cases hlong.symm.trans hq
    · obtain rfl := Except.error.inj (hlong.symm.trans he)
      cases hcategory
    · cases hlong.symm.trans hlong'
      exact hoverlong
  · exact parse_of_overlong h (.int n)

/-- A whole query whose limit is a text that only starts with a number, with a field that is no
name and a direction in capitals. -/
theorem parse_text_outcome_rows :
    let s := "\x7b\"selector\": \x7b\"age\": 18\x7d, \"limit\": \"5 rows\", "
      ++ "\"fields\": [\"age\", 1], \"sort\": [\x7b\"age\": \"DESC\"\x7d]\x7d"
    1 ≤ (25 : Int) ∧ ∃ q, parse (.str s) (.int 25) = .ok q ∧
      Json.render .spaced q.toValue
        = "\x7b\"selector\": \x7b\"age\": 18\x7d, \"limit\": 5, \"fields\": [\"age\"], "
          ++ "\"sort\": [\x7b\"age\": \"desc\"\x7d]\x7d" ∧
      q.IsAdmissible := by
  intro s
  have hlimit : 1 ≤ (25 : Int) := by decide
  have hshown : ((parse (.str s) (.int 25)).toOption.map fun q => Json.render .spaced q.toValue)
      = some ("\x7b\"selector\": \x7b\"age\": 18\x7d, \"limit\": 5, \"fields\": [\"age\"], "
          ++ "\"sort\": [\x7b\"age\": \"desc\"\x7d]\x7d") := by
    decide +kernel
  cases hq : parse (.str s) (.int 25) with
  | error e =>
    rw [hq] at hshown
    cases hshown
  | ok q =>
    rw [hq] at hshown
    exact ⟨hlimit, q, rfl, Option.some.inj hshown, (parse_text_outcome s hlimit).1 q hq⟩

/-- A text that is nothing but one digit too many. It is no query, and yet it is not refused as
one. -/
theorem not_parse_text_outcome_digits :
    let s := String.ofList (List.replicate 4301 '1')
    parse (.str s) (.int 25) = .error (.tooManyDigits 4301) ∧
      ¬ ((∃ q, parse (.str s) (.int 25) = .ok q ∧ q.IsAdmissible) ∨
        ∃ e : Error, parse (.str s) (.int 25) = .error e ∧ e.category = .queryParse) := by
  intro s
  have hones : List.replicate 4301 '1' = '1' :: (List.replicate 4299 '1' ++ ['1']) := by
    rw [← List.replicate_succ', ← List.replicate_succ]
  have hclean : withoutFences s = s := by
    have hfree : fenceMark ∉ List.replicate 4301 '1' := by
      intro hmem
      exact absurd (List.eq_of_mem_replicate hmem) (by decide)
    have hkept : removeFences false (List.replicate 4301 '1') = List.replicate 4301 '1' :=
      removeFences_of_not_infix fun hfence => hfree (hfence.subset (by decide))
    rw [withoutFences, String.toList_ofList, hkept, hones,
      Text.stripList_eq_self (by decide) (by decide), ← hones]
  have hread : Json.read s = .error (.tooManyDigits 4301) := by
    have hall : ∀ c ∈ '1' :: (List.replicate 4299 '1' ++ ['1']), c.isDigit = true := by
      rw [← hones]
      intro c hc
      rw [List.eq_of_mem_replicate hc]
      rfl
    have hlength : ('1' :: (List.replicate 4299 '1' ++ ['1'])).length = 4301 := by
      rw [← hones, List.length_replicate]
    have hrefused := Json.read_digits (by decide) hall (by rw [hlength]; decide)
    rwa [hlength, ← hones] at hrefused
  have hparse : parse (.str s) (.int 25) = .error (.tooManyDigits 4301) :=
    parse_of_overlong (.inl (by rw [hclean, hread])) (.int 25)
  refine ⟨hparse, ?_⟩
  rw [hparse]
  rintro (⟨q, hq, -⟩ | ⟨e, he, hcategory⟩)
  · cases hq
  · cases he
    cases hcategory

end Query

end DocView
