import DocView.Proofs.Server.Rendering
import DocView.Proofs.Store.Failure
import DocView.Proofs.Store.Kind
import DocView.Server.Service

/-!
# Requests that fail

A request may fail before anything is changed, while something is changed, and after that. Before,
there is nothing to lose. In between, the contract of the store applies: it keeps everything. That
leaves what comes after the change, and there the answer is only still to be rendered. An answer
that counts, or says that something was deleted, is small. The two services that save a single
record send the record, and if that is refused by the rendering, the request fails with the record
saved.

So what decides is not whether the store failed but whether a record can be rendered. The form that
is declared of a record ends at its members, and a rendering with declared forms takes all that is
not nested too deeply below them. A failure of this kind therefore needs a body that was nested too
deeply at some time: requests with shallow bodies keep shallow records shallow.

## Main definitions

* `SavedQuery.IsRefused` - a record that cannot be rendered
* `Server.Service.Untouched` - a server that was left as it was
* `Server.Service.Saves` - a request that saves a record
* `Server.Service.Handles` - what handling a request comes to
* `Server.Service.Reaches` - requests with shallow bodies, one after the other

## Main results

* `Server.Service.answer_failed` - what a request that fails leaves behind
-/

namespace DocView

namespace SavedQuery

variable {q : SavedQuery} {n : Nat}

/-- The record cannot be rendered in the form that is declared of records. -/
def IsRefused (q : SavedQuery) (rendering : Server.Rendering) : Prop :=
  ∃ reason, rendering (some 1) q.toValue = .error reason

/-- A record is nested one level deeper than what it is made of. -/
theorem depth_le_iff (hn : 1 ≤ n) :
    q.toValue.depth ≤ n + 1 ↔ q.IsMadeOf fun v => v.depth ≤ n := by
  rw [toValue, Value.depth_object_le_iff]
  constructor
  · intro h
    have hattributes : ∀ entry ∈ q.attributes, entry ∈ q.toMembers := fun entry hentry => by
      simp [toMembers, hentry]
    exact ⟨fun entry hentry => h entry (hattributes entry hentry),
      h ("createdAt", q.createdAt) (by simp [toMembers]),
      h ("updatedAt", q.updatedAt) (by simp [toMembers])⟩
  · exact fun h => h.toMembers fun _ => hn

/-- A record that is not nested too deeply can be rendered. -/
theorem not_isRefused {rendering : Server.Rendering} (hρ : rendering.Declares n)
    (hq : q.toValue.depth ≤ n + 1) : ¬ q.IsRefused rendering := by
  rintro ⟨reason, hreason⟩
  rw [hρ.eq_ok (by omega)] at hreason
  cases hreason

end SavedQuery

namespace Server

/-- The body is at most so many levels deep. -/
def Body.IsShallow (n : Nat) (b : Body) : Prop := ∀ v, b.read = .ok (some v) → v.depth ≤ n

/-! ### Sending -/

namespace Response

variable {r : Response} {rendering : Rendering} {declared : Option Nat} {debugging : Bool}
  {v : Value}

/-- A response with a value that is rendered keeps its status. -/
theorem send_of_ok {w : Value} (hfine : r.status < 400) (hcontent : r.content = .value v)
    (h : rendering declared v = .ok w) :
    r.send rendering declared debugging = { r with content := .value w } := by
  have hrender : r.content.render rendering declared = .ok (.value w) := by
    rw [hcontent, Content.render, h]
    rfl
  rw [send, if_pos hfine, hrender]

/-- A response with a value that is not rendered becomes a failure. -/
theorem send_of_error {reason : String} (hfine : r.status < 400) (hcontent : r.content = .value v)
    (h : rendering declared v = .error reason) :
    r.send rendering declared debugging = internalFailure debugging reason := by
  have hrender : r.content.render rendering declared = .error reason := by
    rw [hcontent, Content.render, h]
    rfl
  rw [send, if_pos hfine, hrender]

end Response

namespace Service

variable {s t : Service} {r : Request} {q : SavedQuery} {rendering : Rendering} {limit : Nat}

/-! ### Bodies -/

/-- A body that has to be an object is one, and its members are passed on. -/
theorem read_of_bodyOf_object {body : Body} {members : Members}
    (h : bodyOf Check.object body = .ok members) :
    ∃ form, body.read = .ok (some (.object form members)) := by
  unfold bodyOf at h
  split at h
  · cases h
  · cases h
  · cases h
  next v hread =>
    cases v with
    | object form given =>
      obtain rfl := Except.ok.inj h
      exact ⟨form, hread⟩
    | _ => cases h

theorem read_of_bodyOf_any {body : Body} {v : Value} (h : bodyOf Check.any body = .ok v) :
    body.read = .ok (some v) := by
  unfold bodyOf at h
  split at h
  · cases h
  · cases h
  · cases h
  next w hread =>
    obtain rfl := Except.ok.inj h
    exact hread

/-! ### What a request leaves behind -/

/-- A server that was left as it was. -/
structure Untouched (s t : Service) : Prop where
  /-- The configuration is the same. -/
  config : t.config = s.config
  /-- The settings are the same. -/
  settings : t.settings = s.settings
  /-- The records and the files are the same. -/
  store : Store.Kept s.store t.store

theorem Untouched.refl (s : Service) : s.Untouched s := ⟨rfl, rfl, .refl s.store⟩

/-- The request is one for the service. -/
def LeadsTo (s : Service) (r : Request) (e : Endpoint) : Prop :=
  resolve (routes s.config.pathPrefix) r.method r.path = .endpoint e

/-- The request creates or updates a record, with the record and the server after that. -/
inductive Saves (s : Service) (r : Request) : SavedQuery → Service → Prop
  | created {members : Members} {q : SavedQuery} {store : Store.State}
    (leads : s.LeadsTo r .createQuery) (body : bodyOf Check.object r.body = .ok members)
    (saved : (Store.create (.record members)).apply s.store = (.ok q, store)) :
    Saves s r q { s with store := store }
  | updated {id : String} {members : Members} {q : SavedQuery} {store : Store.State}
    (leads : s.LeadsTo r (.updateQuery id)) (body : bodyOf Check.object r.body = .ok members)
    (saved : (Store.update (.str id) (.record members)).apply s.store = (.ok q, store)) :
    Saves s r q { s with store := store }

/-- A record among others: at the end, or in the place of an old one. -/
inductive Puts (q : SavedQuery) : List SavedQuery → List SavedQuery → Prop
  | last (records : List SavedQuery) : Puts q records (records ++ [q])
  | inPlace (front back : List SavedQuery) {old : SavedQuery} (id : old.id = q.id) :
    Puts q (front ++ old :: back) (front ++ q :: back)

theorem Puts.mem {records records' : List SavedQuery} (h : Puts q records records') :
    q ∈ records' := by
  cases h <;> simp

/-- **What is saved is there.** -/
theorem Saves.puts (h : s.Saves r q t) : Puts q s.store.records t.store.records := by
  cases h with
  | @created members _ store _ _ saved =>
    have hrun : (Store.Call.create (.record members)).run s.store = (.ok (.record q), store) :=
      Store.Action.apply_bind_ok saved
    have htakes := Store.takes_create s.store (.record members)
    rw [hrun] at htakes
    cases htakes with
    | step _ step =>
      cases step with
      | create => exact .last _
  | @updated id members _ store _ _ saved =>
    have hrun : (Store.Call.update (.str id) (.record members)).run s.store
        = (.ok (.record q), store) := Store.Action.apply_bind_ok saved
    have htakes := Store.takes_update s.store (.str id) (.record members)
    rw [hrun] at htakes
    cases htakes with
    | step _ step =>
      generalize hrecords : s.store.records = records at step
      cases step with
      | update found => exact found ▸ .inPlace _ _ rfl

/-! ### What handling a request comes to -/

/-- What handling a request comes to, before the response is rendered: the server is left as it was,
or the records are changed, and then the response shows the record that was saved, or something
small. -/
inductive Handles (s : Service) (r : Request) : Response × Option Nat × Service → Prop
  | untouched {response : Response} {declared : Option Nat} {t : Service}
    (untouched : s.Untouched t) : Handles s r (response, declared, t)
  | saved {op : Store.Operation} {q : SavedQuery} {response : Response} {t : Service}
    (proposed : Store.Proposes s.store op t.store.records)
    (brings : ∀ n, r.body.IsShallow (n + 1) → op.Brings fun v => v.depth ≤ n)
    (fine : response.status < 400) (saves : s.Saves r q t)
    (shown : response.content = .value q.toValue) : Handles s r (response, some 1, t)
  | told {op : Store.Operation} {v : Value} {response : Response} {t : Service}
    (proposed : Store.Proposes s.store op t.store.records)
    (brings : ∀ n, r.body.IsShallow (n + 1) → op.Brings fun v => v.depth ≤ n)
    (fine : response.status < 400) (shown : response.content = .value v) (small : v.depth ≤ 3) :
    Handles s r (response, some 2, t)

/-- Something done with the store fails and leaves the server as it was, or it succeeds and the
records are those that it proposed. -/
theorem withStore_cases {α : Type} {action : Store.Action α} (op : Store.Operation)
    (hrun : op.run s.store = action.outcome s.store) (hop : op ≠ .reload)
    (respond : Result α → Response) :
    s.Untouched (s.withStore action respond).2 ∨
      ∃ x store, action.apply s.store = (.ok x, store) ∧
        Store.Proposes s.store op store.records ∧
        s.withStore action respond = (respond (.ok x), { s with store := store }) := by
  have hsettles := Store.run_settles s.store hop
  rw [hrun, Store.Action.outcome] at hsettles
  unfold withStore
  generalize action.apply s.store = o at hsettles ⊢
  obtain ⟨outcome, store⟩ := o
  cases outcome with
  | error e =>
    cases hsettles with
    | failed kept => exact .inl ⟨rfl, rfl, kept⟩
  | ok x =>
    cases hsettles with
    | done proposed => exact .inr ⟨x, store, rfl, proposed, rfl⟩

/-- A body of the wrong form changes nothing. -/
theorem onBody_handles {α : Type} {check : Check α} {declared : Option Nat}
    {respond : α → Response × Service}
    (h : ∀ x, bodyOf check r.body = .ok x → Handles s r ((respond x).1, declared, (respond x).2)) :
    Handles s r ((s.onBody check r.body respond).1, declared,
      (s.onBody check r.body respond).2) := by
  unfold onBody
  cases hbody : bodyOf check r.body with
  | ok x => exact h x hbody
  | error refusal => exact .untouched (.refl s)

theorem brings_of_bodyOf {members : Members} (hbody : bodyOf Check.object r.body = .ok members)
    (n : Nat) (hshallow : r.body.IsShallow (n + 1)) (given : Members)
    (hgiven : Store.givenMembers (.record members) = .ok given) :
    given.All fun v => v.depth ≤ n := by
  obtain ⟨form, hread⟩ := read_of_bodyOf_object hbody
  exact Store.all_given (Value.depth_object_le_iff.mp (hshallow _ hread)) hgiven

theorem holdsMembers_of_bodyOf {records : Value} (hbody : bodyOf Check.any r.body = .ok records)
    (n : Nat) (hshallow : r.body.IsShallow (n + 1)) :
    Store.HoldsMembers (fun v => v.depth ≤ n) records := by
  rintro form items rfl form' members hmem
  have hitem := Value.depth_list_le_iff.mp (hshallow _ (read_of_bodyOf_any hbody)) _ hmem
  exact Value.depth_object_le_iff.mp (hitem.trans (Nat.le_succ n))

theorem create_handles (leads : s.LeadsTo r .createQuery) {members : Members}
    (hbody : bodyOf Check.object r.body = .ok members) :
    Handles s r ((s.create members).1, some 1, (s.create members).2) := by
  rcases withStore_cases (.create (.record members)) rfl nofun _ with
    h | ⟨q, store, saved, proposed, hshown⟩
  · exact .untouched h
  · have saves := Saves.created leads hbody saved
    have hfine : 201 < 400 := by decide
    rw [create, hshown]
    exact .saved proposed (brings_of_bodyOf hbody) hfine saves rfl

theorem update_handles {id : String} (leads : s.LeadsTo r (.updateQuery id)) {members : Members}
    (hbody : bodyOf Check.object r.body = .ok members) :
    Handles s r ((s.update id members).1, some 1, (s.update id members).2) := by
  rcases withStore_cases (.update (.str id) (.record members)) rfl nofun _ with
    h | ⟨q, store, saved, proposed, hshown⟩
  · exact .untouched h
  · have saves := Saves.updated leads hbody saved
    have hfine : 200 < 400 := by decide
    rw [update, hshown]
    exact .saved proposed (brings_of_bodyOf hbody) hfine saves rfl

theorem delete_handles (id : String) :
    Handles s r ((s.delete id).1, some 2, (s.delete id).2) := by
  rcases withStore_cases (.delete (.str id)) rfl nofun _ with
    h | ⟨q, store, -, proposed, hshown⟩
  · exact .untouched h
  · have hfine : 200 < 400 := by decide
    rw [delete, hshown]
    exact .told proposed (fun _ _ => trivial) hfine rfl (by simp [Value.depth, Value.membersDepth])

theorem importAll_handles {records : Value} (hbody : bodyOf Check.any r.body = .ok records) :
    Handles s r ((s.importAll records).1, some 2, (s.importAll records).2) := by
  rcases withStore_cases (.importAll records) rfl nofun _ with
    h | ⟨count, store, -, proposed, hshown⟩
  · exact .untouched h
  · have hfine : 200 < 400 := by decide
    rw [importAll, hshown]
    have hsmall : (Value.record [("success", .bool true), ("message", .str ("Imported "
        ++ toString count ++ " saved queries")), ("data", .record [("count", .int count)])]).depth
        ≤ 3 := by
      simp [Value.depth, Value.membersDepth]
    exact .told proposed (holdsMembers_of_bodyOf hbody) hfine rfl hsmall

/-- Every service keeps the contract. -/
theorem serve_handles {e : Endpoint} (leads : s.LeadsTo r e) :
    Handles s r ((s.serve r.body e).1, e.declared, (s.serve r.body e).2) := by
  cases e with
  | createQuery => exact onBody_handles fun _ hbody => create_handles leads hbody
  | updateQuery id => exact onBody_handles fun _ hbody => update_handles leads hbody
  | importQueries => exact onBody_handles fun _ hbody => importAll_handles hbody
  | deleteQuery id => exact delete_handles id
  | discoverFields | processDocuments | buildQuery | parseQuery =>
    exact onBody_handles fun _ _ => .untouched (.refl s)
  | about | health | settings | listQueries | exportQueries | fetchQuery =>
    exact .untouched (.refl s)

/-- **Every request is handled.** -/
theorem handles (s : Service) (r : Request) : Handles s r (s.handle r) := by
  unfold handle
  cases hresolve : resolve (routes s.config.pathPrefix) r.method r.path with
  | endpoint e => exact serve_handles hresolve
  | otherMethod => exact .untouched (.refl s)
  | nowhere => exact .untouched (.refl s)

/-- What is answered to a request has the status of what is sent. -/
theorem answer_of_handle {response : Response} {declared : Option Nat}
    (h : s.handle r = (response, declared, t)) (rendering : Rendering) :
    (s.answer r rendering).2 = t ∧ (s.answer r rendering).1.status
      = (response.send rendering declared t.debugging).status := by
  unfold answer
  rw [h]
  dsimp only
  split <;> exact ⟨rfl, rfl⟩

/-! ### Failures -/

/-- A request that saves a record answers with the record. -/
theorem Saves.handle (h : s.Saves r q t) :
    ∃ status, status < 400 ∧ s.handle r = (.ofValue status q.toValue, some 1, t) := by
  unfold Service.handle
  cases h with
  | created leads body saved =>
    rw [leads]
    exact ⟨201, by decide, by simp only [serve, onBody, body, create, withStore, saved,
      Endpoint.declared]⟩
  | updated leads body saved =>
    rw [leads]
    refine ⟨200, by decide, ?_⟩
    simp only [serve, onBody, body, update, withStore, saved, Endpoint.declared]
    rfl

/-- A record is saved whether or not it can be rendered. -/
theorem Saves.answer (h : s.Saves r q t) (hq : q.IsRefused rendering) :
    (s.answer r rendering).1.status = 500 ∧ (s.answer r rendering).2 = t := by
  obtain ⟨status, hfine, hhandle⟩ := h.handle
  obtain ⟨reason, hreason⟩ := hq
  obtain ⟨ht, hstatus⟩ := answer_of_handle hhandle rendering
  rw [Response.send_of_error hfine rfl hreason] at hstatus
  exact ⟨hstatus, ht⟩

/-- **A request that fails** has changed nothing, or was handled well and shows a record that cannot
be rendered. -/
theorem untouched_or_saves (hρ : rendering.Declares limit) (hlimit : 1 ≤ limit)
    (hfailed : 400 ≤ (s.answer r rendering).1.status) :
    s.Untouched (s.answer r rendering).2 ∨
      ∃ q, s.Saves r q (s.answer r rendering).2 ∧ q.IsRefused rendering := by
  have hhandles := handles s r
  generalize hhandle : s.handle r = handled at hhandles
  cases hhandles with
  | untouched h =>
    rw [(answer_of_handle hhandle rendering).1]
    exact .inl h
  | @saved op q response t _ _ fine saves shown =>
    obtain ⟨ht, hstatus⟩ := answer_of_handle hhandle rendering
    rw [ht]
    refine .inr ⟨q, saves, ?_⟩
    cases hrender : rendering (some 1) q.toValue with
    | error reason => exact ⟨reason, hrender⟩
    | ok w =>
      rw [hstatus, Response.send_of_ok fine shown hrender] at hfailed
      exact absurd fine (Nat.not_lt.mpr hfailed)
  | @told op v response t _ _ fine shown small =>
    have hsent : rendering (some 2) v = .ok v.nulled := hρ.eq_ok (by omega)
    rw [(answer_of_handle hhandle rendering).2, Response.send_of_ok fine shown hsent] at hfailed
    exact absurd fine (Nat.not_lt.mpr hfailed)

/-! ### Requests one after the other -/

/-- All records are at most so many levels deep. -/
def IsShallow (n : Nat) (s : Service) : Prop := ∀ q ∈ s.store.records, q.toValue.depth ≤ n

/-- Requests with shallow bodies are answered one after the other, whether or not they fail. -/
inductive Reaches (rendering : Rendering) (n : Nat) (s : Service) : Service → Prop
  | start : Reaches rendering n s s
  | answered {t : Service} (r : Request) (reached : Reaches rendering n s t)
    (shallow : r.body.IsShallow n) : Reaches rendering n s (t.answer r rendering).2

/-- A request with a shallow body keeps shallow records shallow. -/
theorem isShallow_answer (hlimit : 1 ≤ limit) (hbody : r.body.IsShallow (limit + 1))
    (hs : s.IsShallow (limit + 1)) (rendering : Rendering) :
    (s.answer r rendering).2.IsShallow (limit + 1) := by
  have hhandles := handles s r
  generalize hhandle : s.handle r = handled at hhandles
  have hkept : ∀ {op : Store.Operation} {records : List SavedQuery},
      Store.Proposes s.store op records → op.Brings (fun v => v.depth ≤ limit) →
      ∀ q ∈ records, q.toValue.depth ≤ limit + 1 := by
    intro op records proposed brings q hq
    refine (SavedQuery.depth_le_iff hlimit).mpr (proposed.isMadeOf (fun _ => hlimit) brings ?_ q hq)
    exact fun q hq => (SavedQuery.depth_le_iff hlimit).mp (hs q hq)
  cases hhandles with
  | untouched h =>
    rw [(answer_of_handle hhandle rendering).1, IsShallow, h.store.records]
    exact hs
  | saved proposed brings | told proposed brings =>
    rw [(answer_of_handle hhandle rendering).1]
    exact hkept proposed (brings limit hbody)

theorem Reaches.isShallow (h : Reaches rendering (limit + 1) s t) (hlimit : 1 ≤ limit)
    (hs : s.IsShallow (limit + 1)) : t.IsShallow (limit + 1) := by
  induction h with
  | start => exact hs
  | answered r _ shallow ih => exact isShallow_answer hlimit shallow ih rendering

/-- **What a request that fails leaves behind.** The server is left as it was, or a record was saved
that cannot be rendered. A request that saves such a record does fail, and the record stays. And
nothing of the kind happens on a server with shallow records, whatever requests with shallow bodies
it has answered before. -/
theorem answer_failed (hρ : rendering.Declares limit) (hlimit : 1 ≤ limit) (s : Service)
    (r : Request) :
    (400 ≤ (s.answer r rendering).1.status → s.Untouched (s.answer r rendering).2 ∨
      ∃ q, s.Saves r q (s.answer r rendering).2 ∧ q.IsRefused rendering) ∧
    (∀ q t, s.Saves r q t → q.IsRefused rendering →
      (s.answer r rendering).1.status = 500 ∧ (s.answer r rendering).2 = t ∧
        Puts q s.store.records t.store.records) ∧
    (∀ start : Service, start.IsShallow (limit + 1) → Reaches rendering (limit + 1) start s →
      r.body.IsShallow (limit + 1) → 400 ≤ (s.answer r rendering).1.status →
      s.Untouched (s.answer r rendering).2) := by
  refine ⟨untouched_or_saves hρ hlimit, fun q t saves hq => ?_,
    fun start hstart hreaches hbody hfailed => ?_⟩
  · obtain ⟨h500, ht⟩ := saves.answer hq
    exact ⟨h500, ht, saves.puts⟩
  · rcases untouched_or_saves hρ hlimit hfailed with h | ⟨q, saves, hq⟩
    · exact h
    · have hkept := isShallow_answer hlimit hbody (hreaches.isShallow hlimit hstart) rendering
      exact absurd hq (SavedQuery.not_isRefused hρ (hkept q saves.puts.mem))

/-- A server without queries, and nothing else on its disk than a directory. -/
def blank : Service := ⟨Config.default, Settings.default, Store.blank⟩

/-- A server whose disk runs full: a query cannot be saved, and none is. -/
theorem answer_failed_fullDisk :
    let b : Store.Backing := ⟨⟨"/", ["data", "queries.json"]⟩, .json⟩
    let s : Service := { blank with store := { Store.blank with
      backing := some b
      disk := { Store.blank.disk with failure := some ⟨.write, "No space left on device"⟩ } } }
    let r : Request := ⟨"POST", "/api/queries", .value (.record [("name", .str "Open cases")])⟩
    Rendering.standard.Declares 255 ∧ r.body.IsShallow 256 ∧ s.IsShallow 256 ∧
      400 ≤ (s.answer r).1.status ∧ s.Untouched (s.answer r).2 := by
  intro b s r
  have hbody : r.body.IsShallow 256 := by
    intro v hv
    cases hv
    decide
  have hs : s.IsShallow 256 := List.forall_mem_nil _
  have hfailed : 400 ≤ (s.answer r).1.status := by decide +kernel
  exact ⟨Rendering.declares_standard, hbody, hs, hfailed,
    (answer_failed Rendering.declares_standard (by decide) s r).2.2 s hs .start hbody hfailed⟩

/-- A list in a list in a list, so many of them around an empty one. -/
def nested : Nat → Value
  | 0 => .array []
  | n + 1 => .array [nested n]

/-- A name that is nested too deeply: the request fails, and the query is saved. -/
theorem not_answer_untouched_nested :
    ¬ ∀ (s : Service) (r : Request), 400 ≤ (s.answer r).1.status → s.Untouched (s.answer r).2 := by
  intro h
  let r : Request := ⟨"POST", "/api/queries", .value (.record [("name", nested 299)])⟩
  have hfailed : 400 ≤ (blank.answer r).1.status := by decide +kernel
  have hsaved : (blank.answer r).2.store.records.length = 1 := by decide +kernel
  rw [(h blank r hfailed).store.records] at hsaved
  exact absurd hsaved (by decide)

end Service

end Server

end DocView
