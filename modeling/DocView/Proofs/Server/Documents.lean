import DocView.Proofs.Query.Sending
import DocView.Proofs.SavedView
import DocView.Proofs.Server.Failure
import DocView.Proofs.View

/-!
# Documents that are shown to a client

A client who sends documents and conditions is shown the documents that pass, page by page. On the
way to the filters the conditions are checked and put together again in another order, with what
was not sent left out, and it is to be shown that they arrive as the conditions they were. Then a
run without sort keys shows the pages of what the filters select.

What is shown is still to be rendered, which changes numbers that JSON does not have and fails on
documents that are nested too deeply. So an answer is compared with what a page of the selection is
sent as. A rendering that takes what is shallow tells a page of nothing from any other, and that is
enough to tell two selections apart.

## Main definitions

* `Server.Service.processRequest`, `Server.Service.sendView`
* `Server.Service.Selects` - the pages that are shown are those of a selection

## Main results

* `Server.Check.condition_toValue` - a condition passes the check as it is
* `Server.Service.selects_toValue` - conditions that are sent select what they select here
-/

namespace DocView

namespace Server

/-! ### Routes -/

/-- Leaving out what answers nothing does not change the first answer. -/
theorem findSome?_filter_isSome {α β : Type} (f : α → Option β) (p : α → Bool) (l : List α) :
    ((l.filter fun a => (f a).isSome).filter p).findSome? f = (l.filter p).findSome? f := by
  induction l with
  | nil => rfl
  | cons a l ih => cases hf : f a <;> cases hp : p a <;> simp [-List.filter_filter, hf, hp, ih]

/-- Among the routes of one method, the first that fits is taken. -/
theorem resolve_eq_endpoint {table : List Route} {method path : String} {e : Endpoint}
    (h : (table.filter fun r => r.method == method).findSome? (fun r => r.endpoint? path)
      = some e) : resolve table method path = .endpoint e := by
  have hexactly : resolveExactly table method path = .endpoint e := by
    unfold resolveExactly
    dsimp only
    rw [findSome?_filter_isSome, h]
  rw [resolve, hexactly]

namespace Check

variable {place : Place} {c : Condition} {cs : List Condition}

/-! ### Conditions -/

/-- **A condition passes the check as it is**, though its members are put in another order. -/
theorem condition_toValue (hc : c.IsNamed) (place : Place) :
    ∃ form, condition place c.toValue = .ok form ∧ Condition.ofValue form = .ok c := by
  have hfilled := hc.isFilledIn
  obtain ⟨field, op, hfield, hop⟩ := hc
  obtain ⟨_, _, value, type⟩ := c
  subst hfield hop
  cases hset : value.isUnset with
  | true =>
    cases value with
    | unset =>
      refine ⟨.record [("field", .str field), ("operator", .str op.name),
        ("type", .str type.name)], ?_, Condition.ofValue_toValue hfilled⟩
      cases type <;> rfl
    | _ => contradiction
  | false =>
    refine ⟨.record [("field", .str field), ("operator", .str op.name), ("value", value),
      ("type", .str type.name)], ?_, ?_⟩
    · have hname : fieldTypeName (place ++ [.name "type"]) (.str type.name) = .ok type.name := by
        cases type <;> rfl
      rw [Condition.toValue_eq, Condition.entries_of_isSet hset]
      show Checked.app (.ok _) (((fieldTypeName (place ++ [.name "type"]) (.str type.name)).map
        some).map _) = _
      rw [hname]
      rfl
    · have htype : FieldType.ofValue? (.str type.name) = some type := FieldType.ofValue?_name type
      rw [Condition.ofValue_record]
      show Except.ok (Condition.mk ((Value.str field).orElse (.str ""))
        ((Value.str op.name).orElse (.str Operator.equals.name)) value
        ((FieldType.ofValue? (.str type.name)).getD .string)) = _
      rw [hfilled.field, hfilled.operator, htype]
      rfl

/-- A list of conditions passes the check as it is. -/
theorem items_condition_toValue (h : ∀ c ∈ cs, c.IsNamed) (place : Place) :
    ∃ forms, items condition place (.array (cs.map Condition.toValue)) = .ok forms ∧
      forms.mapM Condition.ofValue = .ok cs := by
  show ∃ forms, itemsFrom condition place 0 (cs.map Condition.toValue) = .ok forms ∧ _
  generalize 0 = index
  induction cs generalizing index with
  | nil => exact ⟨[], rfl, rfl⟩
  | cons c rest ih =>
    obtain ⟨hc, hrest⟩ := List.forall_mem_cons.mp h
    obtain ⟨form, hform, hread⟩ := condition_toValue hc (place ++ [.index index])
    obtain ⟨forms, hforms, hreads⟩ := ih hrest (index + 1)
    refine ⟨form :: forms, ?_, ?_⟩
    · rw [List.map_cons, itemsFrom, hform, hforms]
      rfl
    · rw [List.mapM_cons, hread, hreads]
      rfl

theorem items_any (place : Place) (vs : List Value) :
    items any place (.array vs) = .ok vs := by
  show itemsFrom any place 0 vs = .ok vs
  generalize 0 = index
  induction vs generalizing index with
  | nil => rfl
  | cons v rest ih =>
    rw [itemsFrom, ih]
    rfl

/-! ### Numbers -/

theorem atLeast_int {low n : Int} (hn : low ≤ n) (place : Place) :
    atLeast low place (.int n) = .ok n := by
  show (if n < low then fail .tooSmall place (.int n) else .ok n) = _
  rw [if_neg (by omega)]

theorem between_int {low high n : Int} (hlow : low ≤ n) (hhigh : n ≤ high) (place : Place) :
    between low high place (.int n) = .ok n := by
  rw [between, atLeast_int hlow]
  show (if high < n then fail .tooLarge place (.int n) else .ok n) = _
  rw [if_neg (by omega)]

end Check

/-- The members of a request for a page of the documents that pass all conditions. -/
def viewMembers (documents : List Value) (conditions : Value) (page size : Nat) : Members :=
  [("documents", .array documents), ("filters", conditions), ("logic", .str Logic.and.name),
    ("page", .int page), ("page_size", .int size)]

/-- A request of this form passes its check if its conditions do. -/
theorem ViewForm.check_viewMembers {documents forms : List Value} {conditions : Value}
    {page size : Nat} {place : Place}
    (hforms : Check.items Check.condition (place ++ [.name "filters"]) conditions = .ok forms)
    (hpage : 1 ≤ page) (hsize : 1 ≤ size) (hmax : (size : Int) ≤ maxPageSize) :
    ViewForm.check place (.record (viewMembers documents conditions page size))
      = .ok ⟨documents, forms, .and, [], page, some size⟩ := by
  have hdocuments := Check.items_any (place ++ [.name "documents"]) documents
  have hlogic : Check.logic (place ++ [.name "logic"]) (.str Logic.and.name) = .ok .and := rfl
  have hnumber : Check.atLeast 1 (place ++ [.name "page"]) (.int page) = .ok page :=
    Check.atLeast_int (by omega) _
  have hlimit : Check.between 1 maxPageSize (place ++ [.name "page_size"]) (.int size)
      = .ok (size : Int) := Check.between_int (by omega) hmax _
  show Checked.app (Checked.app (Checked.app (Checked.app (Checked.app
    ((Check.items Check.any (place ++ [.name "documents"]) (.array documents)).map ViewForm.mk)
    (Check.items Check.condition (place ++ [.name "filters"]) conditions))
    (Check.logic (place ++ [.name "logic"]) (.str Logic.and.name)))
    (.ok []))
    (Check.atLeast 1 (place ++ [.name "page"]) (.int page)))
    ((Check.between 1 maxPageSize (place ++ [.name "page_size"]) (.int size)).map some) = _
  rw [hdocuments, hforms, hlogic, hnumber, hlimit]
  rfl

namespace Service

variable {s : Service} {r : Request} {rendering : Rendering} {limit : Nat}
  {cs cs' : List Condition} {sent : Value} {documents forms matched : List Value}
  {lines fields : List String} {page size : Nat}

/-! ### What is answered -/

/-- What is answered to a request for a service is what the service answers, as it is sent. -/
theorem answer_of_leadsTo {e : Endpoint} (leads : s.LeadsTo r e) (hmethod : r.method ≠ "HEAD")
    (rendering : Rendering) : (s.answer r rendering).1
      = (s.serve r.body e).1.send rendering e.declared (s.serve r.body e).2.debugging := by
  unfold answer handle
  rw [leads]
  dsimp only
  rw [if_neg hmethod]

/-- A body that is an object is passed on if it passes the check. -/
theorem bodyOf_record_eq_ok {α : Type} {check : Check α} {members : Members} {x : α} :
    bodyOf check (.value (.record members)) = .ok x
      ↔ check [.name "body"] (.record members) = .ok x := by
  have hread : (Body.value (.record members)).read = .ok (some (.record members)) := rfl
  unfold bodyOf
  rw [hread]
  dsimp only
  cases check [.name "body"] (.record members) <;> simp

/-- A request for a page of the documents that pass all conditions. -/
def processRequest (s : Service) (documents : List Value) (conditions : Value) (page size : Nat) :
    Request :=
  ⟨"POST", s.config.pathPrefix ++ "/documents/process",
    .value (.record (viewMembers documents conditions page size))⟩

theorem leadsTo_processDocuments (s : Service) (body : Body) :
    s.LeadsTo ⟨"POST", s.config.pathPrefix ++ "/documents/process", body⟩ .processDocuments := by
  refine resolve_eq_endpoint ?_
  simp [routes, Route.endpoint?, String.append_assoc]

/-- What a response to a request for a view is sent as. -/
def sendView (s : Service) (rendering : Rendering) (response : Response) : Response :=
  response.send rendering Endpoint.processDocuments.declared s.debugging

/-- Documents are processed as the conditions were put together. -/
theorem answer_processRequest
    (hforms : Check.items Check.condition [.name "body", .name "filters"] sent = .ok forms)
    (hpage : 1 ≤ page) (hsize : 1 ≤ size) (hmax : (size : Int) ≤ maxPageSize)
    (rendering : Rendering) : (s.answer (s.processRequest documents sent page size) rendering).1
      = s.sendView rendering (s.process ⟨documents, forms, .and, [], page, some size⟩) := by
  have hmethod : "POST" ≠ "HEAD" := by decide
  have hbody : bodyOf ViewForm.check (.value (.record (viewMembers documents sent page size)))
      = .ok ⟨documents, forms, .and, [], page, some size⟩ :=
    bodyOf_record_eq_ok.mpr (ViewForm.check_viewMembers hforms hpage hsize hmax)
  rw [processRequest, answer_of_leadsTo (leadsTo_processDocuments s _) hmethod, serve, onBody,
    hbody, sendView]

/-! ### Runs without sort keys -/

theorem passing_view (hread : forms.mapM Condition.ofValue = .ok cs) (page : Int)
    (size : Option Int) (documents : List Value) :
    (ViewForm.view ⟨documents, forms, .and, [], page, size⟩).passing documents
      = FilterSet.apply ⟨cs, .and⟩ (.array documents) := by
  have hfilters : FilterSet.ofConditions (.array forms) (.str Logic.and.name)
      = .ok ⟨cs, .and⟩ := by
    rw [FilterSet.ofConditions, Value.elements?_array_orElse]
    exact bind_eq_ok.mpr ⟨_, rfl, bind_eq_ok.mpr ⟨_, hread, rfl⟩⟩
  show (FilterSet.ofConditions (.array forms) (.str Logic.and.name) >>= fun filters =>
    filters.apply (.array documents)) = _
  rw [hfilters]
  rfl

theorem numbers_view (settings : Settings) (hpage : 1 ≤ page) (hsize : 1 ≤ size)
    (hmax : (size : Int) ≤ maxPageSize) : Page.numbers (.int page)
      ((Value.int size).orElse settings.pagination.itemsPerPage) = .ok (page, size) := by
  have hsize' : (Value.int size).orElse settings.pagination.itemsPerPage = .int size := by
    rw [Value.orElse, if_pos]
    simp only [Value.truthy, bne_iff_ne]
    omega
  rw [hsize']
  exact Page.numbers_eq_ok_iff.mpr ⟨rfl, hpage, rfl, hsize, hmax⟩

/-- A run that has no sort keys shows a page of the documents that pass. -/
theorem run_view (settings : Settings) (hread : forms.mapM Condition.ofValue = .ok cs)
    (hfields : Fields.user (.array documents) settings.engine.internalPrefix
      settings.engine.fieldSample = .ok fields)
    (happly : FilterSet.apply ⟨cs, .and⟩ (.array documents) = .ok (matched, lines))
    (hpage : 1 ≤ page) (hsize : 1 ≤ size) (hmax : (size : Int) ≤ maxPageSize) :
    (ViewForm.view ⟨documents, forms, .and, [], page, some size⟩).run settings (.array documents)
      = .ok (View.outcome documents matched matched fields lines page size) :=
  View.run_eq_ok_iff.mpr ⟨matched, lines, [], matched, fields, page, size,
    (passing_view hread page (some size) documents).trans happly, rfl, rfl,
    numbers_view settings hpage hsize hmax, hfields, rfl⟩

theorem run_view_error (settings : Settings) {e : Error}
    (hread : forms.mapM Condition.ofValue = .ok cs)
    (happly : FilterSet.apply ⟨cs, .and⟩ (.array documents) = .error e) :
    (ViewForm.view ⟨documents, forms, .and, [], page, some size⟩).run settings (.array documents)
      = .error e := by
  refine bind_eq_error.mpr (.inr ⟨documents, rfl, bind_eq_error.mpr (.inl ?_)⟩)
  exact (passing_view hread page (some size) documents).trans happly

/-- The fields are looked for last. -/
theorem run_view_error_of_fields (settings : Settings) {e : Error}
    (hread : forms.mapM Condition.ofValue = .ok cs)
    (happly : FilterSet.apply ⟨cs, .and⟩ (.array documents) = .ok (matched, lines))
    (hpage : 1 ≤ page) (hsize : 1 ≤ size) (hmax : (size : Int) ≤ maxPageSize)
    (hfields : Fields.user (.array documents) settings.engine.internalPrefix
      settings.engine.fieldSample = .error e) :
    (ViewForm.view ⟨documents, forms, .and, [], page, some size⟩).run settings (.array documents)
      = .error e := by
  have hpassing := (passing_view hread page (some size) documents).trans happly
  have hnumbers := numbers_view settings hpage hsize hmax
  have hitems : Page.ofList matched (.int page)
      ((Value.int size).orElse settings.pagination.itemsPerPage)
        = .ok (Page.slice matched page size) := by
    rw [Page.ofList, hnumbers]
    rfl
  have hinfo : Page.infoOf (.int matched.length) (.int page)
      ((Value.int size).orElse settings.pagination.itemsPerPage)
        = .ok (Page.info matched.length page size) := by
    rw [Page.infoOf, hnumbers]
    rfl
  refine bind_eq_error.mpr (.inr ⟨documents, rfl, bind_eq_error.mpr (.inr ⟨_, hpassing, ?_⟩)⟩)
  refine bind_eq_error.mpr (.inr ⟨[], rfl, bind_eq_error.mpr (.inr ⟨matched, rfl, ?_⟩)⟩)
  refine bind_eq_error.mpr (.inr ⟨_, hitems, bind_eq_error.mpr (.inr ⟨_, hinfo, ?_⟩)⟩)
  exact bind_eq_error.mpr (.inl hfields)

/-! ### Selections -/

/-- The fields that are shown of a collection. -/
abbrev fieldsShown (s : Service) (documents : List Value) : Result (List String) :=
  Fields.user (.array documents) s.settings.engine.internalPrefix s.settings.engine.fieldSample

/-- The fields of every collection can be found. -/
def DiscoversFields (s : Service) : Prop :=
  ∀ documents : List Value, ∃ fields, s.fieldsShown documents = .ok fields

/-- Fields that start with a text are left out of every collection. -/
theorem discoversFields_of_text {start : String}
    (hstart : s.settings.engine.internalPrefix = .str start)
    (hsample : s.settings.engine.fieldSample = .null) : s.DiscoversFields := by
  intro documents
  have hinternal : ∀ name, ∃ hidden, Fields.isInternal (.str start) name = .ok hidden := by
    intro name
    unfold Fields.isInternal
    split <;> exact ⟨_, rfl⟩
  have hwithout : ∀ names, ∃ fields, Fields.withoutInternal (.str start) names = .ok fields := by
    intro names
    induction names with
    | nil => exact ⟨[], rfl⟩
    | cons name rest ih =>
      obtain ⟨hidden, hhidden⟩ := hinternal name
      obtain ⟨others, hothers⟩ := ih
      rw [Fields.withoutInternal, hhidden, hothers]
      exact ⟨_, rfl⟩
  rw [fieldsShown, hstart, hsample]
  exact hwithout (Fields.names documents)

/-- **A server selects, for what it is sent, what a list of conditions selects**: of every
collection that is not too large, page by page, as far as these pages can be rendered, and failing
if that fails. -/
structure Selects (s : Service) (rendering : Rendering) (sent : Value)
    (conditions : List Condition) : Prop where
  /-- The pages that are shown, one after the other, are the documents that pass. -/
  shows : ∀ documents : List Value, (documents.length : Int) ≤ s.config.maxDocuments →
    ∀ matched lines fields,
    FilterSet.apply ⟨conditions, .and⟩ (.array documents) = .ok (matched, lines) →
    s.fieldsShown documents = .ok fields →
    ∀ size : Nat, 1 ≤ size → (size : Int) ≤ maxPageSize → ∃ pages,
      (∀ page, 1 ≤ page → (s.answer (s.processRequest documents sent page size) rendering).1
        = s.sendView rendering ⟨200, .value (shown (pages page)), countHeaders (pages page)⟩) ∧
      View.Paging documents matched matched fields size pages
  /-- A failure to filter or to find the fields is reported as one. -/
  fails : ∀ documents : List Value, (documents.length : Int) ≤ s.config.maxDocuments → ∀ e,
    (FilterSet.apply ⟨conditions, .and⟩ (.array documents) = .error e ∨
      (∃ selection, FilterSet.apply ⟨conditions, .and⟩ (.array documents) = .ok selection) ∧
        s.fieldsShown documents = .error e) →
    ∀ page size : Nat, 1 ≤ page → 1 ≤ size → (size : Int) ≤ maxPageSize →
      (s.answer (s.processRequest documents sent page size) rendering).1
        = s.sendView rendering (.ofError s.debugging e)
  /-- A collection that is too large is refused, whatever the conditions. -/
  refuses : ∀ (documents : List Value) (refusal : Response), s.tooMany? documents = some refusal →
    ∀ page size : Nat, 1 ≤ page → 1 ≤ size → (size : Int) ≤ maxPageSize →
      (s.answer (s.processRequest documents sent page size) rendering).1
        = s.sendView rendering refusal

theorem tooMany?_eq_none (hlength : (documents.length : Int) ≤ s.config.maxDocuments) :
    s.tooMany? documents = none := by
  rw [tooMany?, if_neg (by omega)]

/-- **Conditions that are sent in object form select what they select here.** -/
theorem selects_toValue (s : Service) (rendering : Rendering) (hcs : ∀ c ∈ cs, c.IsNamed) :
    s.Selects rendering (.array (cs.map Condition.toValue)) cs where
  shows documents hlength matched lines fields happly hfields size hsize hmax := by
    refine ⟨fun page => View.outcome documents matched matched fields lines page size,
      fun page hpage => ?_, View.paging_outcome hsize rfl⟩
    obtain ⟨forms, hforms, hread⟩ := Check.items_condition_toValue hcs _
    have hrun := run_view s.settings hread hfields happly hpage hsize hmax
    rw [answer_processRequest hforms hpage hsize hmax, process, tooMany?_eq_none hlength, hrun]
  fails documents hlength e hfails page size hpage hsize hmax := by
    obtain ⟨forms, hforms, hread⟩ := Check.items_condition_toValue hcs _
    have hrun : (ViewForm.view ⟨documents, forms, .and, [], page, some size⟩).run s.settings
        (.array documents) = .error e := by
      rcases hfails with happly | ⟨⟨⟨matched, lines⟩, happly⟩, hfields⟩
      · exact run_view_error s.settings hread happly
      · exact run_view_error_of_fields s.settings hread happly hpage hsize hmax hfields
    rw [answer_processRequest hforms hpage hsize hmax, process, tooMany?_eq_none hlength, hrun]
  refuses documents refusal hrefusal page size hpage hsize hmax := by
    obtain ⟨forms, hforms, -⟩ := Check.items_condition_toValue hcs _
    rw [answer_processRequest hforms hpage hsize hmax, process, hrefusal]

/-- Conditions that are alike select alike. -/
theorem Selects.congr (h : s.Selects rendering sent cs)
    (halike : List.Forall₂ Condition.Alike cs' cs) : s.Selects rendering sent cs' where
  shows documents hlength matched lines fields happly :=
    h.shows documents hlength matched lines fields
      ((FilterSet.apply_congr halike .and (.array documents)).symm.trans happly)
  fails documents hlength e hfails :=
    h.fails documents hlength e (FilterSet.apply_congr halike .and (.array documents) ▸ hfails)
  refuses := h.refuses

/-! ### Telling selections apart -/

/-- What is shown of a page without documents is small. -/
theorem depth_shown {o : View.Outcome} (hitems : o.items = []) : (shown o).depth ≤ 3 := by
  have hfields : (Value.array (o.fields.map .str)).depth ≤ 2 :=
    Value.depth_list_le_iff.mpr (List.forall_mem_map.mpr fun _ _ => Nat.le_refl 1)
  have hpage : (Value.record o.page.toMembers).depth ≤ 2 := by
    simp [Page.Info.toMembers, Value.depth, Value.membersDepth]
  have hcounts : (Value.record o.counts).depth ≤ 2 := by
    simp [View.Outcome.counts, Value.depth, Value.membersDepth]
  refine Value.depth_object_le_iff.mpr ?_
  simp only [List.forall_mem_cons, hitems]
  exact ⟨Nat.le_succ 1, Nat.le_succ 1, hfields, hpage, hcounts, List.forall_mem_nil _⟩

/-- A page that can be rendered is sent as no other. -/
theorem nulled_eq_of_sendView_eq {v w : Value} {headers headers' : List (String × String)}
    (hρ : rendering.Declares limit) (hv : v.depth ≤ 2 + limit)
    (h : s.sendView rendering ⟨200, .value v, headers⟩
      = s.sendView rendering ⟨200, .value w, headers'⟩) : v.nulled = w.nulled := by
  have hfine : 200 < 400 := by decide
  have hdeclared : Endpoint.processDocuments.declared = some 2 := rfl
  rw [sendView, sendView, hdeclared, Response.send_of_ok hfine rfl (hρ.eq_ok hv)] at h
  cases hw : rendering (some 2) w with
  | ok w' =>
    rw [Response.send_of_ok hfine rfl hw, hρ.nulled hw] at h
    exact Content.value.inj (Response.mk.inj h).2.1
  | error reason =>
    rw [Response.send_of_error hfine rfl hw] at h
    exact absurd (congrArg Response.status h) (by simp [Response.internalFailure,
      Response.failure, Response.ofValue])

/-- The total that is shown is rendered as it is. -/
theorem total_eq_of_nulled_eq {o o' : View.Outcome} (h : (shown o).nulled = (shown o').nulled) :
    o.total = o'.total := by
  rw [shown, shown, Value.nulled_object, Value.nulled_object] at h
  have hsame : some (Value.int o.total) = some (Value.int o'.total) :=
    congrArg (Members.get? · "total") (Value.object.inj h).2
  have := Value.int.inj (Option.some.inj hsame)
  omega

/-- The total that is shown of a single document says whether it passes. -/
theorem Selects.exists_total {c : Condition} {document : Value} {kept : Bool}
    (h : s.Selects rendering sent [c]) (hc : c.IsNamed)
    (hfields : s.fieldsShown [document] = .ok fields) (hmax : 1 ≤ s.config.maxDocuments)
    (haccepts : c.accepts document = .ok kept) :
    ∃ o : View.Outcome, (s.answer (s.processRequest [document] sent 1 1) rendering).1
        = s.sendView rendering ⟨200, .value (shown o), countHeaders o⟩ ∧
      o.total = (if kept then 1 else 0) ∧ (kept = false → o.items = []) := by
  obtain ⟨lines, happly⟩ := FilterSet.exists_apply_singleton hc.isKnown .and haccepts
  obtain ⟨pages, hpages, hpaging⟩ :=
    h.shows [document] hmax _ lines fields happly hfields 1 (by omega) (by decide)
  refine ⟨pages 1, hpages 1 (by omega), (hpaging.total 1 (by omega)).trans ?_, ?_⟩
  · cases kept <;> rfl
  · rintro rfl
    exact hpaging.beyond 1 (by simp [Page.pageCount])

/-- What is sent selects as one condition only, as far as a single document shows. -/
theorem Selects.kept_eq {c c' : Condition} {document : Value} {kept kept' : Bool}
    (hρ : rendering.Declares limit) (hlimit : 1 ≤ limit) (h : s.Selects rendering sent [c])
    (h' : s.Selects rendering sent [c']) (hc : c.IsNamed) (hc' : c'.IsNamed)
    (hfields : s.fieldsShown [document] = .ok fields) (hmax : 1 ≤ s.config.maxDocuments)
    (haccepts : c.accepts document = .ok kept) (haccepts' : c'.accepts document = .ok kept') :
    kept = kept' := by
  obtain ⟨o, hanswer, ho, hnone⟩ := h.exists_total hc hfields hmax haccepts
  obtain ⟨o', hanswer', ho', hnone'⟩ := h'.exists_total hc' hfields hmax haccepts'
  rw [hanswer] at hanswer'
  -- A page of nothing can be rendered, so whichever of the two it is, both show the same total.
  have htotal : kept = false ∨ kept' = false → o.total = o'.total := by
    rintro (hkept | hkept)
    · have hsmall := depth_shown (hnone hkept)
      exact total_eq_of_nulled_eq (nulled_eq_of_sendView_eq hρ (by omega) hanswer')
    · have hsmall := depth_shown (hnone' hkept)
      exact (total_eq_of_nulled_eq (nulled_eq_of_sendView_eq hρ (by omega) hanswer'.symm)).symm
  rw [ho, ho'] at htotal
  cases kept <;> cases kept' <;> simp at htotal ⊢

end Service

end Server

end DocView
