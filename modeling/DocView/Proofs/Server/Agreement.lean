import DocView.Proofs.Server.Documents

/-!
# Parsing a query and filtering by it

A client may have a text parsed and send back the conditions that it gets, to see the documents
that the query would select. That should be what the query selects here. Two steps lie in between:
the conditions are sent, in one response and the next request, and they are filtered by. The second
step is harmless, as conditions that are sent select what they select here. So what decides is
whether each condition survives being sent. If all of them do, the two agree on all documents; and
a condition that does not survive makes them disagree on some document when it is sent alone.

A text is accepted if the answer can be rendered, and what the query selects by is what the reader
of JSON makes of the text. Numbers that JSON does not have are among that, and come back as null.
Objects may be too, but not in a condition that is sent.

## Main definitions

* `Server.Service.parseRequest`
* `Server.Response.conditions` - the conditions that a client finds in a response

## Main results

* `Server.Service.exists_query_of_accepted` - what a text that is accepted stands for
* `Server.Service.selects_conditions_iff`
-/

namespace DocView

namespace Server

/-! ### Responses -/

namespace Response

variable {r : Response} {rendering : Rendering} {declared : Option Nat} {debugging : Bool}

/-- The conditions that a client finds in a response: JSON gives all containers back plain. -/
def conditions (r : Response) : Value :=
  match r.content with
  | .value (.object _ members) => (Value.member members "conditions").thaw
  | _ => .null

/-- A response that is all right was all right, and its body was rendered. -/
theorem send_eq_of_status (h : (r.send rendering declared debugging).status = 200) :
    r.status = 200 ∧ ∃ content, r.content.render rendering declared = .ok content ∧
      r.send rendering declared debugging = { r with content := content } := by
  unfold send at h ⊢
  cases hrender : r.content.render rendering (if r.status < 400 then declared else none) with
  | error reason =>
    rw [hrender] at h
    cases h
  | ok content =>
    rw [hrender] at h
    have hstatus : r.status = 200 := h
    rw [hstatus, if_pos (by decide)] at hrender
    exact ⟨hstatus, content, hrender, rfl⟩

theorem status_ofError_ne (debugging : Bool) (e : Error) : (ofError debugging e).status ≠ 200 := by
  unfold ofError
  split <;> simp [internalFailure, failure, ofValue]

end Response

namespace Service

variable {s : Service} {rendering : Rendering} {limit : Nat} {text : String} {c : Condition}
  {v : Value} {q : Query}

/-- A request to parse a text. -/
def parseRequest (s : Service) (text : String) : Request :=
  ⟨"POST", s.config.pathPrefix ++ "/query/parse", .value (.record [("text", .str text)])⟩

theorem leadsTo_parseQuery (s : Service) (body : Body) :
    s.LeadsTo ⟨"POST", s.config.pathPrefix ++ "/query/parse", body⟩ .parseQuery := by
  refine resolve_eq_endpoint ?_
  simp [routes, Route.endpoint?, String.append_assoc]

/-! ### What is accepted -/

/-- A text that is not empty is a form. -/
theorem serve_parseRequest (htext : text ≠ "") :
    s.serve (s.parseRequest text).body .parseQuery = (s.parse ⟨text⟩, s) := by
  have hcheck : ParseForm.check [.name "body"] (.record [("text", .str text)]) = .ok ⟨text⟩ := by
    show Except.map ParseForm.mk (if text = "" then
      Check.fail .textTooShort [.name "body", .name "text"] (.str text) else .ok text) = _
    rw [if_neg htext]
    rfl
  show s.onBody ParseForm.check (.value (.record [("text", .str text)]))
    (fun form => (s.parse form, s)) = _
  rw [onBody, bodyOf_record_eq_ok.mpr hcheck]

/-- A text that is accepted is parsed, and the answer is rendered. -/
theorem answer_parseRequest
    (accepted : (s.answer (s.parseRequest text) rendering).1.status = 200) :
    (s.parse ⟨text⟩).status = 200 ∧ ∃ content,
      (s.parse ⟨text⟩).content.render rendering (some 3) = .ok content ∧
      (s.answer (s.parseRequest text) rendering).1 = { s.parse ⟨text⟩ with content := content } := by
  have hmethod : "POST" ≠ "HEAD" := by decide
  have hdeclared : Endpoint.parseQuery.declared = some 3 := rfl
  have hleads : s.LeadsTo (s.parseRequest text) .parseQuery := leadsTo_parseQuery s _
  rw [answer_of_leadsTo hleads hmethod rendering, hdeclared] at accepted ⊢
  have htext : text ≠ "" := by
    rintro rfl
    have hrefused : (s.serve (s.parseRequest "").body .parseQuery).1.status = 422 := rfl
    have hstatus := (Response.send_eq_of_status accepted).1
    rw [hrefused] at hstatus
    contradiction
  rw [serve_parseRequest htext] at accepted ⊢
  obtain ⟨hstatus, content, hrender, hsent⟩ := Response.send_eq_of_status accepted
  exact ⟨hstatus, content, hrender, hsent⟩

/-- A query is answered with itself and its conditions, if all of these can be sent. -/
theorem parsed_eq_ok (h : (s.parsed q).status = 200) :
    ∃ v sent, sentQuery q = .ok v ∧ q.conditions.mapM sentCondition = .ok sent ∧
      s.parsed q = .ok (.record [("query", v), ("conditions", .array sent)]) := by
  unfold parsed at h ⊢
  dsimp only at h ⊢
  split at h
  next body hbody =>
    obtain ⟨v, hv, hbody'⟩ := bind_eq_ok.mp hbody
    obtain ⟨sent, hsent, hrecord⟩ := bind_eq_ok.mp hbody'
    obtain rfl := Except.ok.inj hrecord
    exact ⟨v, sent, hv, hsent, rfl⟩
  next e _ => exact absurd h (Response.status_ofError_ne _ e)

/-- **What a text that is accepted stands for**: a query that the text denotes, whose conditions are
sent one by one, and come back rendered. -/
theorem exists_query_of_accepted (hρ : rendering.Declares limit)
    (accepted : (s.answer (s.parseRequest text) rendering).1.status = 200) :
    ∃ q sent, Query.ofText text s.settings.query.defaultLimit = .ok q ∧
      q.conditions.mapM sentCondition = .ok sent ∧
      (s.answer (s.parseRequest text) rendering).1.conditions = (Value.array sent).nulled.thaw := by
  obtain ⟨hstatus, content, hrender, hanswer⟩ := answer_parseRequest accepted
  rw [hanswer]
  unfold parse at hstatus hrender
  cases hq : Query.ofText text s.settings.query.defaultLimit with
  | error e =>
    simp only [hq] at hstatus
    split at hstatus
    · cases hstatus
    · exact absurd hstatus (Response.status_ofError_ne _ e)
  | ok q =>
    simp only [hq] at hstatus hrender
    obtain ⟨v, sent, hquery, hsent, hparsed⟩ := parsed_eq_ok hstatus
    rw [hparsed] at hrender
    obtain ⟨w, hw, rfl⟩ := map_eq_ok.mp hrender
    rw [hρ.nulled hw, Value.nulled_object]
    exact ⟨q, sent, rfl, hsent, rfl⟩

/-! ### What is sent -/

/-- The object form of a condition comes back with the value that comes back. -/
theorem thaw_nulled_toValue {field name : String} {value : Value} {type : FieldType} :
    (Condition.toValue ⟨.str field, .str name, value, type⟩).nulled.thaw
      = Condition.toValue ⟨.str field, .str name, value.thaw.nulled, type⟩ := by
  have hcommute : value.nulled.thaw = value.thaw.nulled :=
    (Value.nulled_withForm .plain value).symm
  cases hset : value.isUnset with
  | true =>
    cases value with
    | unset => rfl
    | _ => contradiction
  | false =>
    have hset' : value.thaw.nulled.isUnset = false := by
      cases value with
      | float x =>
        show (Value.float x).nulled.isUnset = false
        rw [Value.nulled]
        split <;> rfl
      | unset => contradiction
      | _ => rfl
    rw [Condition.toValue_eq, Condition.toValue_eq, Condition.entries_of_isSet hset,
      Condition.entries_of_isSet hset', Value.nulled_object, ← hcommute]
    rfl

/-- What a client finds of a condition is the condition that comes back, in object form. -/
theorem thaw_of_sentCondition (hc : c.IsNamed) (h : sentCondition c = .ok v) :
    c.value.hasObject = false ∧ v.nulled.thaw = c.returned.toValue := by
  obtain ⟨field, op, hfield, hop⟩ := hc
  obtain ⟨_, _, value, type⟩ := c
  subst hfield hop
  unfold sentCondition at h
  split_ifs at h with hobject hnull
  · obtain rfl := Except.ok.inj h
    refine ⟨Bool.eq_false_iff.mpr hobject, ?_⟩
    rw [thaw_nulled_toValue, Condition.returned, if_pos hnull]
    rfl
  · obtain rfl := Except.ok.inj h
    refine ⟨Bool.eq_false_iff.mpr hobject, ?_⟩
    rw [thaw_nulled_toValue, Condition.returned, if_neg hnull]

/-- What a client finds of all conditions is what comes back of each, and no objects are in them. -/
theorem thaw_of_mapM_sentCondition {cs : List Condition} {sent : List Value}
    (hcs : ∀ c ∈ cs, c.IsNamed) (h : cs.mapM sentCondition = .ok sent) :
    (∀ c ∈ cs, c.value.hasObject = false) ∧
      (Value.array sent).nulled.thaw = .array (cs.map fun c => c.returned.toValue) := by
  rw [Value.nulled_list, Value.thaw, Value.withForm_list]
  rw [mapM_eq_ok_iff] at h
  induction h with
  | nil => exact ⟨List.forall_mem_nil _, rfl⟩
  | @cons c v cs sent hv _ ih =>
    obtain ⟨hc, hrest⟩ := List.forall_mem_cons.mp hcs
    obtain ⟨hobject, hthaw⟩ := thaw_of_sentCondition hc hv
    obtain ⟨hobjects, hthaws⟩ := ih hrest
    refine ⟨List.forall_mem_cons.mpr ⟨hobject, hobjects⟩, congrArg Value.array ?_⟩
    exact congrArg₂ List.cons hthaw (Value.list.inj hthaws).2

/-! ### Agreement -/

/-- A condition that comes back alone selects what it selects here if and only if it survives. -/
theorem selects_returned_iff (hρ : rendering.Declares limit) (hlimit : 1 ≤ limit)
    (hs : s.DiscoversFields) (hmax : 1 ≤ s.config.maxDocuments) (hc : Query.FromFrozen c)
    (hobject : c.value.hasObject = false) :
    s.Selects rendering (.array [c.returned.toValue]) [c] ↔ c.SurvivesSending := by
  have hnamed : ∀ d ∈ [c.returned], d.IsNamed := List.forall_mem_singleton.mpr hc.isNamed.returned
  have hreturned : s.Selects rendering (.array [c.returned.toValue]) [c.returned] :=
    selects_toValue s rendering hnamed
  constructor
  · intro hselects
    by_contra hsurvives
    obtain ⟨document, kept, -, haccepts, haccepts'⟩ := hc.flips hobject hsurvives
    obtain ⟨fields, hfields⟩ := hs [document]
    have hsame := Selects.kept_eq hρ hlimit hselects hreturned hc.isNamed hc.isNamed hfields hmax
      haccepts haccepts'
    cases kept <;> contradiction
  · exact fun hsurvives => hreturned.congr (.cons (hc.alike_returned hsurvives) .nil)

/-- What a query from a text selects by is data. -/
theorem fromFrozen_of_isRead {selector : Members} (hmade : Json.IsRead (.record selector))
    (hfrozen : q.selector = Value.withFormMembers .frozen selector) :
    ∀ c ∈ q.conditions, Query.FromFrozen c := by
  intro c hc
  rw [Query.conditions, hfrozen] at hc
  exact Query.fromFrozen_of_mem hmade.isData hc

/-- **Filtering by the conditions of a text that was parsed.** Let a text be accepted. Then it
denotes a query, whatever limit stands in for a missing one, and a client finds one condition for
each condition of the query. If all of these survive sending, then what the client is shown for them
is what the query selects here. And a condition that is sent alone selects what it selects here if
and only if it survives, on a server that takes documents and finds their fields. -/
theorem selects_conditions_iff (hρ : rendering.Declares limit) (hlimit : 1 ≤ limit)
    (accepted : (s.answer (s.parseRequest text) rendering).1.status = 200) (other : Value) :
    ∃ (q : Query) (sent : List Value), Query.ofText text other = .ok q ∧
      (s.answer (s.parseRequest text) rendering).1.conditions = .array sent ∧
      ((∀ c ∈ q.conditions, c.SurvivesSending) →
        s.Selects rendering (.array sent) q.conditions) ∧
      (s.DiscoversFields → 1 ≤ s.config.maxDocuments →
        List.Forall₂ (fun v c => s.Selects rendering (.array [v]) [c] ↔ c.SurvivesSending)
          sent q.conditions) := by
  obtain ⟨q, sent, hq, hsent, hfound⟩ := exists_query_of_accepted hρ accepted
  obtain ⟨selector, hmade, hfrozen, hlimits⟩ := Query.exists_selector_of_ofText hq
  obtain ⟨n, hq'⟩ := hlimits other
  have hfrom := fromFrozen_of_isRead hmade hfrozen
  have hnamed : ∀ c ∈ q.conditions, c.IsNamed := fun c hc => (hfrom c hc).isNamed
  obtain ⟨hobjects, hthaw⟩ := thaw_of_mapM_sentCondition hnamed hsent
  rw [hthaw] at hfound
  refine ⟨{ q with limit := n }, _, hq', hfound, fun hsurvives => ?_, fun hs hmax => ?_⟩
  · have hreturned : s.Selects rendering (.array ((q.conditions.map Condition.returned).map
        Condition.toValue)) (q.conditions.map Condition.returned) :=
      selects_toValue s rendering (List.forall_mem_map.mpr fun c hc => hnamed c hc)
    rw [List.map_map] at hreturned
    refine hreturned.congr (List.forall₂_map_right_iff.mpr (List.forall₂_same.mpr ?_))
    exact fun c hc => (hfrom c hc).alike_returned (hsurvives c hc)
  · refine List.forall₂_map_left_iff.mpr (List.forall₂_same.mpr ?_)
    exact fun c hc => selects_returned_iff hρ hlimit hs hmax (hfrom c hc) (hobjects c hc)

theorem discoversFields_blank : blank.DiscoversFields := by
  have hstart : blank.settings.engine.internalPrefix = .str "_" := rfl
  exact discoversFields_of_text hstart rfl

/-- A bound on a number survives. -/
theorem selects_conditions_iff_age :
    let text := "\x7b\"age\": \x7b\"$gt\": 30\x7d\x7d"
    Rendering.standard.Declares 255 ∧ (blank.answer (blank.parseRequest text)).1.status = 200 ∧
      ∃ (q : Query) (sent : List Value), Query.ofText text (.int 25) = .ok q ∧
        (blank.answer (blank.parseRequest text)).1.conditions = .array sent ∧
        blank.Selects .standard (.array sent) q.conditions := by
  intro text
  have haccepted : (blank.answer (blank.parseRequest text)).1.status = 200 := by decide +kernel
  obtain ⟨q, sent, hq, hfound, hselects, -⟩ :=
    selects_conditions_iff Rendering.declares_standard (by decide) haccepted (.int 25)
  refine ⟨Rendering.declares_standard, haccepted, q, sent, hq, hfound, hselects ?_⟩
  have hscalars : ((Query.ofText text (.int 25)).toOption.map fun q => q.conditions.all fun c =>
      !c.value.isContainer && !c.value.isNull && !Json.hasNonFinite c.value) = some true := by
    decide +kernel
  have hall := Option.some.inj (hq ▸ hscalars)
  intro c hc
  have hvalue := List.all_eq_true.mp hall c hc
  rw [Bool.and_eq_true, Bool.and_eq_true, Bool.not_eq_true', Bool.not_eq_true',
    Bool.not_eq_true'] at hvalue
  exact Query.survivesSending_of_scalar hvalue.1.1 hvalue.1.2 hvalue.2

/-- A test for equality with null rejects everything here, and nothing when it comes back: the null
is not sent. -/
theorem not_selects_conditions_null :
    ¬ ∀ (text : String) (q : Query), (blank.answer (blank.parseRequest text)).1.status = 200 →
      Query.ofText text (.int 25) = .ok q →
      blank.Selects .standard (blank.answer (blank.parseRequest text)).1.conditions
        q.conditions := by
  intro h
  let text := "\x7b\"a\": \x7b\"$eq\": null\x7d\x7d"
  let documents : List Value := [.record [("a", .int 1)]]
  have haccepted : (blank.answer (blank.parseRequest text)).1.status = 200 := by decide +kernel
  obtain ⟨q, _, hq, -⟩ := exists_query_of_accepted Rendering.declares_standard haccepted
  -- Here the test selects nothing.
  have hselected : ((Query.ofText text (.int 25)).toOption.bind fun q =>
      (FilterSet.apply ⟨q.conditions, .and⟩ (.array documents)).toOption.map fun o => o.1.length)
        = some 0 := by decide +kernel
  obtain ⟨⟨matched, lines⟩, happly, hlength⟩ := Option.map_eq_some_iff.mp (hq ▸ hselected)
  obtain ⟨fields, hfields⟩ := discoversFields_blank documents
  obtain ⟨pages, hpages, hpaging⟩ := (h text q haccepted hq).shows documents (by decide) matched
    lines fields (toOption_eq_some.mp happly) hfields 1 (by omega) (by decide)
  have hnothing : (pages 1).items = [] := hpaging.beyond 1 (by simp_all [Page.pageCount])
  -- What comes back selects the document.
  have hreturned : ("x-documents-returned", "1") ∈ (blank.answer (blank.processRequest documents
      (blank.answer (blank.parseRequest text)).1.conditions 1 1)).1.headers := by decide +kernel
  have hsmall := depth_shown hnothing
  have hrendered : Rendering.standard (some 2) (shown (pages 1)) = .ok (shown (pages 1)).nulled :=
    Rendering.declares_standard.eq_ok (hsmall.trans (by decide))
  have hsent : blank.sendView .standard ⟨200, .value (shown (pages 1)), countHeaders (pages 1)⟩
      = ⟨200, .value (shown (pages 1)).nulled, countHeaders (pages 1)⟩ := by
    have hfine : 200 < 400 := by decide
    exact Response.send_of_ok hfine rfl hrendered
  rw [hpages 1 (by omega), hsent] at hreturned
  have hone : "1" = Nat.repr 0 := by
    simpa [countHeaders, View.Outcome.returned, hnothing] using hreturned
  exact absurd hone (by decide)

end Service

end Server

end DocView
