import DocView.Proofs.Query.Fence
import DocView.Proofs.Query.RoundTrip
import DocView.Proofs.Text.Split

/-!
# Queries as text and as objects

A query can be given as an object or as the text that an object is written as. The text is cleared
of fences before it is read, and so are the names and texts in it. What is read is therefore the
object with its names and texts unfenced, and where two names of an object become the same, the
later value counts. A query whose object has no fence in it is the same query both ways.

If there is a fence in an object without a selector, the object is itself the selector, and all of
its names and texts are in the query that it is read as. The text, on the other hand, is read as a
query that has no fence in its selector. So the two queries differ.

## Main definitions

* `Query.FenceFree` - values without a fence in their names and texts

## Main results

* `Query.withoutFences_render`
* `Query.parse_render_iff` - what is read from the text of an object
-/

namespace DocView.Query

open Json

/-- No name and no text in a value has a fence. -/
def FenceFree (v : Value) : Prop := ∀ s ∈ v.texts, ¬ fence <:+: s.toList

instance : DecidablePred FenceFree := fun v =>
  List.decidableBAll (fun s : String => ¬ fence <:+: s.toList) v.texts

/-! ### Values without fences -/

theorem FenceFree.mapTexts_eq_self {v : Value} (h : FenceFree v) : v.mapTexts unfenced = v :=
  Value.mapTexts_eq_self fun s hs => unfenced_eq_self_iff.mpr (h s hs)

theorem fenceFree_mapTexts (v : Value) : FenceFree (v.mapTexts unfenced) := by
  intro s hs
  rw [Value.texts_mapTexts] at hs
  obtain ⟨t, -, rfl⟩ := List.mem_map.mp hs
  rw [unfenced, String.toList_ofList]
  exact not_infix_removeFences false t.toList

theorem FenceFree.merged {v : Value} (h : FenceFree v) : FenceFree v.merged :=
  fun s hs => h s (Value.mem_texts_of_mem_texts_merged hs)

/-! ### From the text to the object -/

/-- A written object stands between its brackets. -/
theorem exists_toList_render_record (style : Style) (d : Members) :
    ∃ middle, (render style (.record d)).toList = '\x7b' :: (middle ++ ['\x7d']) := by
  rw [render, Value.record, renderAt]
  cases d with
  | nil => exact ⟨[], by rw [renderMembers]; simp [Style.enclose]⟩
  | cons entry rest =>
    rw [Style.toList_enclose style 0 _ _ (renderMembers_ne_nil (List.cons_ne_nil entry rest))]
    exact ⟨_, rfl⟩

/-- **Clearing the text of an object of fences** clears its names and texts of them. -/
theorem withoutFences_render {style : Style} (hstyle : style.Readable) {double : Binary64 → Prop}
    {d : Members} (hd : (Value.record d).IsData double) :
    withoutFences (render style (.record d))
      = render style ((Value.record d).mapTexts unfenced) := by
  have hobject : (Value.record d).mapTexts unfenced = .record (Value.mapMemberTexts unfenced d) := rfl
  obtain ⟨middle, hmiddle⟩ := exists_toList_render_record style (Value.mapMemberTexts unfenced d)
  rw [withoutFences, removeFences_render hstyle hd, hobject, hmiddle,
    Text.stripList_eq_self (by decide) (by decide), ← hmiddle, String.ofList_toList]

/-- A text that is read as a value is parsed like the value. -/
theorem parse_render {d : Members} {double : Binary64 → Prop} (hd : (Value.record d).IsData double)
    {v : Value} (hread : read (render .spaced ((Value.record d).mapTexts unfenced)) = .ok v)
    (limit : Value) : parse (.str (render .spaced (.record d))) limit = ofObject v limit := by
  have hclean := withoutFences_render Style.readable_spaced hd
  have hne : withoutFences (render .spaced (.record d)) ≠ "" := by
    obtain ⟨middle, hmiddle⟩ := exists_toList_render_record .spaced (Value.mapMemberTexts unfenced d)
    intro hempty
    rw [hclean] at hempty
    have hnil := hmiddle.symm.trans (congrArg String.toList hempty)
    exact List.cons_ne_nil _ _ hnil
  show ofText (render .spaced (.record d)) limit = _
  rw [ofText, if_neg hne, hclean, hread]

/-! ### The texts of a selector -/

theorem textsOfMembers_withFormMembers (form : Form) (members : Members) :
    Value.textsOfMembers (Value.withFormMembers form members) = Value.textsOfMembers members := by
  have hobject := Value.texts_withForm form (.record members)
  rwa [Value.record, Value.withForm, Value.texts, Value.texts] at hobject

/-- A selector has only texts of the object that it is read from. -/
theorem mem_texts_of_mem_selector {v limit : Value} {q : Query} (hq : ofObject v limit = .ok q)
    {s : String} (hs : s ∈ Value.textsOfMembers q.selector) : s ∈ v.texts := by
  cases v with
  | object form members =>
    rw [ofObject] at hq
    rw [Value.texts]
    split at hq
    next =>
      cases hq
      rwa [ofSelector, textsOfMembers_withFormMembers] at hs
    next form inner hget =>
      obtain ⟨_, -, hq⟩ := bind_eq_ok.mp hq
      obtain ⟨_, -, hq⟩ := bind_eq_ok.mp hq
      obtain ⟨_, -, hq⟩ := bind_eq_ok.mp hq
      obtain ⟨_, -, hq⟩ := bind_eq_ok.mp hq
      obtain ⟨selector, hselector, hq⟩ := bind_eq_ok.mp hq
      have hmember : Value.member members "selector" = .object form inner := by
        rw [Value.member, hget]
        rfl
      rw [hmember, selectorOf_object] at hselector
      cases hselector
      cases hq
      rw [ofSelector, textsOfMembers_withFormMembers, Value.mem_textsOfMembers] at hs
      obtain ⟨entry, hentry, hs⟩ := hs
      have hinner : s ∈ (Value.object form inner).texts :=
        Value.mem_textsOfMembers.mpr ⟨entry, Members.mem_of_mem_ofEntries hentry, hs⟩
      exact Value.mem_textsOfMembers.mpr ⟨_, Members.mem_of_get? hget, .inr hinner⟩
    next => contradiction
  | _ => contradiction

theorem fenceFree_of_mem_selector {v limit : Value} {q : Query} (hv : FenceFree v)
    (hq : ofObject v limit = .ok q) : ∀ s ∈ Value.textsOfMembers q.selector, ¬ fence <:+: s.toList :=
  fun s hs => hv s (mem_texts_of_mem_selector hq hs)

/-! ### The text and the object -/

/-- **What is read from the text of an object**, if reading a text inverts writing it. Where there
is no fence in the names and texts of the object, the text is the same query as the object, or
fails with the same error. In general it is the query of the object whose names and texts are
unfenced. If an object without a selector has a fence in it, its text is never the same query. -/
theorem parse_render_iff {d : Members} (hd : (Value.record d).IsData fun _ => True)
    (hread : read (render .spaced (.record d)) = .ok (.record d)) :
    (FenceFree (.record d) → ∀ limit,
      parse (.str (render .spaced (.record d))) limit = parse (.record d) limit) ∧
    ((Value.record d).IsData ReadsDouble → unwritable? (.record d) = none → ∀ limit,
      parse (.str (render .spaced (.record d))) limit
        = parse ((Value.record d).mapTexts unfenced).merged limit ∧
      (Members.get? d "selector" = none →
        (parse (.str (render .spaced (.record d))) limit = parse (.record d) limit
          ↔ FenceFree (.record d)))) := by
  have hsame : FenceFree (.record d) → ∀ limit,
      parse (.str (render .spaced (.record d))) limit = parse (.record d) limit := by
    intro hfree limit
    have hclean : read (render .spaced ((Value.record d).mapTexts unfenced)) = .ok (.record d) := by
      rwa [hfree.mapTexts_eq_self]
    exact parse_render hd hclean limit
  refine ⟨hsame, fun hdouble hwritable limit => ?_⟩
  have hparse := parse_render hd
    (read_render_mapTexts Style.readable_spaced hdouble hwritable unfenced) limit
  refine ⟨hparse, fun hbare => ⟨fun heq => ?_, fun hfree => hsame hfree limit⟩⟩
  -- The object is its own selector, so its texts are those of the query that the text is read as.
  have hselector : parse (.record d) limit = .ok (ofSelector d limit [] []) := by
    show ofObject (.object .plain d) limit = _
    rw [ofObject, hbare]
  rw [hparse, hselector] at heq
  have hfree := fenceFree_of_mem_selector (fenceFree_mapTexts (.record d)).merged heq
  rwa [ofSelector, textsOfMembers_withFormMembers] at hfree

/-- Two marks in a row are no fence: a selector with a text in a text of its own. -/
theorem parse_render_iff_marks :
    let d : Members := [("type", .str "user"),
      ("note", .record [("$ne", .str (String.ofList (List.replicate 2 fenceMark)))])]
    (Value.record d).IsData (fun _ => True) ∧ (Value.record d).IsData ReadsDouble ∧
      unwritable? (.record d) = none ∧ read (render .spaced (.record d)) = .ok (.record d) ∧
      FenceFree (.record d) ∧
      parse (.str (render .spaced (.record d))) (.int 25) = parse (.record d) (.int 25) := by
  intro d
  have hdata : (Value.record d).IsData fun _ => False := by
    refine .object (by decide) ?_
    simp only [d, List.forall_mem_cons]
    exact ⟨.str _, .object (by decide) (List.forall_mem_singleton.mpr (.str _)),
      List.forall_mem_nil _⟩
  have hdouble : (Value.record d).IsData ReadsDouble := hdata.mono fun _ h => h.elim
  have hany : (Value.record d).IsData fun _ => True := hdata.mono fun _ h => h.elim
  have hwritable : unwritable? (.record d) = none := rfl
  have hread := read_render Style.readable_spaced hdata hwritable
  have hfree : FenceFree (.record d) := by decide
  exact ⟨hany, hdouble, hwritable, hread, hfree,
    (((parse_render_iff hany hread).2 hdouble hwritable (.int 25)).2 rfl).mpr hfree⟩

/-- A selector for a text that is a fence. In its text nothing is left of the fence. -/
theorem not_parse_render_fence :
    let d : Members := [("a", .str (String.ofList fence))]
    (Value.record d).IsData (fun _ => True) ∧
      read (render .spaced (.record d)) = .ok (.record d) ∧
      parse (.record d) (.int 25) = .ok ⟨d, .int 25, [], []⟩ ∧
      parse (.str (render .spaced (.record d))) (.int 25)
        = .ok ⟨[("a", .str "")], .int 25, [], []⟩ ∧
      parse (.str (render .spaced (.record d))) (.int 25) ≠ parse (.record d) (.int 25) := by
  intro d
  have hdata : (Value.record d).IsData fun _ => False :=
    .object (by decide) (List.forall_mem_singleton.mpr (.str _))
  have hdouble : (Value.record d).IsData ReadsDouble := hdata.mono fun _ h => h.elim
  have hobject : parse (.record d) (.int 25) = .ok ⟨d, .int 25, [], []⟩ := rfl
  have hempty : unfenced (String.ofList fence) = "" := by decide
  have hchanged : ((Value.record d).mapTexts unfenced).merged = .record [("a", .str "")] := by
    simp only [d, Value.record, Value.mapTexts, Value.mapMemberTexts, hempty]
    rfl
  have htext : parse (.str (render .spaced (.record d))) (.int 25)
      = .ok ⟨[("a", .str "")], .int 25, [], []⟩ := by
    rw [parse_render hdouble (read_render_mapTexts Style.readable_spaced hdouble rfl unfenced),
      hchanged]
    rfl
  refine ⟨hdata.mono fun _ h => h.elim, read_render Style.readable_spaced hdata rfl, hobject, htext,
    ?_⟩
  rw [htext, hobject]
  intro heq
  have hselector := congrArg Query.selector (Except.ok.inj heq)
  simp [d, fence] at hselector

end DocView.Query
