import DocView.Log.Level
import DocView.Query.Builder
import DocView.Query.Parse
import DocView.Query.Replay
import DocView.Server.Config
import DocView.Server.Form
import DocView.Server.Request
import DocView.Server.Response
import DocView.Server.Route
import DocView.Store.Basic
import DocView.View

/-!
# The service

A running server: its configuration, the settings of the engine, and the store of saved queries.
Each request is answered by itself, and only the services on saved queries change anything.

A change is made before its answer is written. An answer that cannot be sent therefore reports a
failure although the change has been made; a change that fails leaves the records as they were.

## Main definitions

* `Server.Service`, `Server.Service.start`
* `Server.Service.answer`
-/

namespace DocView.Server

/-- A running server. -/
structure Service where
  config : Config
  settings : Settings
  store : Store.State

/-- What is called the version of the server. -/
def version : String := "0.1.0"

namespace Service

/-! ### Starting -/

/-- Whether a text is given and not empty. -/
def given? (s : Option String) : Option Value :=
  s.bind fun s => if s = "" then none else some (.str s)

/-- The settings with what the configuration says of the store. -/
def override (c : Config) (s : Settings) : Settings :=
  { s with storage := { s.storage with
      backend := (given? c.storeKind).getD s.storage.backend
      directory := (given? c.dataDirectory).getD s.storage.directory } }

/-- The level of messages that a configuration or else the settings ask for. -/
def logLevel (c : Config) (s : Settings) : Result Int :=
  Log.levelOfValue ((given? (some c.logLevel)).getD s.logLevel)

/-- How the store of the settings is to be opened. -/
def storeRequest (s : Settings) : Result Store.Request :=
  match s.storage.backend with
  | .str "memory" => .ok ⟨.str "memory", none, .null, .bool true⟩
  | _ => do .ok ⟨.str "file", some (← s.storePath), s.storage.format, .bool true⟩

/-- Starts a server: checks the level of messages and opens the store. -/
def start (c : Config) (s : Settings) (supply : Supply) (disk : Disk) : Result Service := do
  let settings := override c s
  let _ ← logLevel c settings
  let request ← storeRequest settings
  let (outcome, state) := (Store.openAs request).apply ⟨[], none, supply, disk⟩
  let _ ← outcome
  .ok ⟨c, settings, state⟩

/-- Whether the reasons of failures are told. -/
def debugging (s : Service) : Bool := s.config.logLevel == "DEBUG"

/-! ### Bodies -/

/-- The body of a request that passes a check, or the response that says why it does not. -/
def bodyOf {α : Type} (check : Check α) (body : Body) : Except Response α :=
  match body.read with
  | .error (.syntaxFault fault) =>
    .error (.malformed [⟨.malformedBody, [.name "body", .index fault.offset], .null⟩])
  | .error (.tooManyDigits _) => .error (.refusal 400 "There was an error parsing the body")
  | .ok none => .error (.malformed [⟨.missing, [.name "body"], .null⟩])
  | .ok (some v) =>
    match check [.name "body"] v with
    | .ok x => .ok x
    | .error complaints => .error (.malformed complaints)

/-! ### Saved queries -/

/-- The answer to a request that does something with the store. -/
def withStore {α : Type} (s : Service) (action : Store.Action α)
    (respond : Result α → Response) : Response × Service :=
  let (outcome, store) := action.apply s.store
  (respond outcome, { s with store := store })

/-- The response to the outcome of something done to one saved query. -/
def onQuery {α : Type} (s : Service) (id : String) (respond : α → Response) :
    Result α → Response
  | .ok x => respond x
  | .error e =>
    if e.category == .queryNotFound then .refusal 404 ("Query '" ++ id ++ "' not found")
    else .ofError s.debugging e

/-- Saves a query. -/
def create (s : Service) (members : Members) : Response × Service :=
  s.withStore (Store.create (.record members)) fun
    | .ok q => .ofValue 201 q.toValue
    | .error e => .ofError s.debugging e

/-- Replaces all saved queries. -/
def importAll (s : Service) (records : Value) : Response × Service :=
  s.withStore (Store.importAll records) fun
    | .ok count =>
      .success ("Imported " ++ toString count ++ " saved queries")
        (.record [("count", .int count)])
    | .error e =>
      if e.category == .validation then .refusal 400 e.message else .ofError s.debugging e

/-- Shows a saved query. -/
def fetch (s : Service) (id : String) : Response × Service :=
  s.withStore (Store.fetch (.str id)) (s.onQuery id fun q => .ok q.toValue)

/-- Changes a saved query. -/
def update (s : Service) (id : String) (members : Members) : Response × Service :=
  s.withStore (Store.update (.str id) (.record members)) (s.onQuery id fun q => .ok q.toValue)

/-- Deletes a saved query. -/
def delete (s : Service) (id : String) : Response × Service :=
  s.withStore (Store.delete (.str id))
    (s.onQuery id fun _ => .success ("Query '" ++ id ++ "' deleted") .null)

/-! ### Documents -/

/-- The response to a collection that is larger than allowed. -/
def tooMany? (s : Service) (documents : List Value) : Option Response :=
  if s.config.maxDocuments < documents.length then
    some (.refusal 413 ("Too many documents in one request (" ++ toString documents.length ++ " > "
      ++ intText s.config.maxDocuments ++ ")"))
  else none

/-- The fields of a collection with their types. -/
def fieldsOf (s : Service) (form : FieldsForm) : Result Value := do
  let engine := s.settings.engine
  let collection := Value.array form.documents
  let names ←
    if form.includeInternal then Fields.all collection engine.fieldSample
    else Fields.user collection engine.internalPrefix engine.fieldSample
  let types ← Inference.ofFields form.documents (names.map .str) engine.typeSample
  .ok (.record [("fields", .array (names.map .str)),
    ("types", .record (types.map fun (field, type) => (field.display, .str type.name)))])

/-- Answers with the fields of a collection. -/
def discover (s : Service) (form : FieldsForm) : Response :=
  match s.tooMany? form.documents with
  | some refusal => refusal
  | none =>
    match s.fieldsOf form with
    | .ok v => .ok v
    | .error e => .ofError s.debugging e

/-- The view that a form asks for. -/
def ViewForm.view (form : ViewForm) : View where
  conditions := .array form.conditions
  logic := .str form.logic.name
  sortKeys := .array form.sortKeys
  page := .int form.page
  pageSize := match form.pageSize with
    | some n => .int n
    | none => .null

/-- The object form of what a view shows. -/
def shown (o : View.Outcome) : Value :=
  .record [("items", .array o.items), ("total", .int o.total),
    ("fields", .array (o.fields.map .str)), ("page", .record o.page.toMembers),
    ("stats", .record o.counts)]

/-- The headers that tell the counts of a run. -/
def countHeaders (o : View.Outcome) : List (String × String) :=
  [("x-documents-scanned", toString o.scanned), ("x-documents-matched", toString o.matched),
   ("x-documents-returned", toString o.returned)]

/-- Answers with a view of a collection. -/
def process (s : Service) (form : ViewForm) : Response :=
  match s.tooMany? form.documents with
  | some refusal => refusal
  | none =>
    match (ViewForm.view form).run s.settings (.array form.documents) with
    | .ok o => ⟨200, .value (shown o), countHeaders o⟩
    | .error e => .ofError s.debugging e

/-! ### Queries -/

/-- A query as it is sent: its limit has to be an integer. -/
def sentQuery (q : Query) : Result Value :=
  match Check.integer [] q.limit with
  | .ok n => .ok { q with limit := .int n }.toValue
  | .error _ => .error (.badArgument "the limit of a query has to be an integer")

/-- Answers with the query that rows build. -/
def build (s : Service) (form : BuildForm) : Response :=
  let options := Value.record [("fields", .array (form.fields.map .str)),
    ("sort", form.order.getD .null), ("limit", if form.everything then .null else form.limit)]
  let query := do
    sentQuery (← Query.build (.ofSettings s.settings) (.array form.rows) options)
  match query with
  | .ok v => .ok v
  | .error e => .ofError s.debugging e

/-- A condition as it is sent: without a value that is null, and without one that holds a
read-only object, which cannot be sent. -/
def sentCondition (c : Condition) : Result Value :=
  if c.value.hasObject then
    .error (.badArgument "Unable to serialize unknown type: <class 'mappingproxy'>")
  else .ok (Condition.toValue (if c.value.isNull then { c with value := .unset } else c))

/-- A query together with the conditions that it stands for. -/
def parsed (s : Service) (q : Query) : Response :=
  let body := do
    .ok (Value.record [("query", ← sentQuery q),
      ("conditions", .array (← q.conditions.mapM sentCondition))])
  match body with
  | .ok v => .ok v
  | .error e => .ofError s.debugging e

/-- Answers with the query that a text denotes. -/
def parse (s : Service) (form : ParseForm) : Response :=
  match Query.ofText form.text s.settings.query.defaultLimit with
  | .ok q => s.parsed q
  | .error e =>
    if e.category == .queryParse then .refusal 400 e.message else .ofError s.debugging e

/-! ### Requests -/

/-- What the server is. -/
def about (s : Service) : Value :=
  .record [("name", .str "docshape"), ("version", .str version), ("docs", .str "/docs"),
    ("api", .str s.config.pathPrefix)]

/-- How the server is. -/
def health (s : Service) : Value :=
  .record [("status", .str "healthy"), ("version", .str version),
    ("saved_queries", .int s.store.records.length)]

/-- The name of the file that saved queries are exported to. -/
def exportName : String := "saved-queries.json"

/-- Answers with what a body of the right form asks for. -/
def onBody {α : Type} (s : Service) (check : Check α) (body : Body)
    (respond : α → Response × Service) : Response × Service :=
  match bodyOf check body with
  | .ok x => respond x
  | .error refusal => (refusal, s)

/-- What a service answers, and the server after it. -/
def serve (s : Service) (body : Body) : Endpoint → Response × Service
  | .about => (.ok s.about, s)
  | .health => (.ok s.health, s)
  | .settings => (.ok s.settings.toValue, s)
  | .listQueries => (.ok (Store.exported s.store.records), s)
  | .exportQueries =>
    (⟨200, .value (Store.exported s.store.records),
      [("content-disposition", "attachment; filename=\"" ++ exportName ++ "\"")]⟩, s)
  | .createQuery => s.onBody Check.object body s.create
  | .importQueries => s.onBody Check.any body s.importAll
  | .fetchQuery id => s.fetch id
  | .updateQuery id => s.onBody Check.object body (s.update id)
  | .deleteQuery id => s.delete id
  | .discoverFields => s.onBody FieldsForm.check body fun form => (s.discover form, s)
  | .processDocuments => s.onBody ViewForm.check body fun form => (s.process form, s)
  | .buildQuery => s.onBody BuildForm.check body fun form => (s.build form, s)
  | .parseQuery => s.onBody ParseForm.check body fun form => (s.parse form, s)

/-- What is answered to a request before it is rendered, the number of levels that are declared of
that, and the server after it. -/
def handle (s : Service) (r : Request) : Response × Option Nat × Service :=
  match resolve (routes s.config.pathPrefix) r.method r.path with
  | .endpoint e =>
    let (response, s) := s.serve r.body e
    (response, e.declared, s)
  | .otherMethod => (.refusal 405 "Method Not Allowed", none, s)
  | .nowhere => (.refusal 404 "Not Found", none, s)

/-- The response to a request, and the server after it. -/
def answer (s : Service) (r : Request) (rendering : Rendering := .standard) : Response × Service :=
  let (response, declared, s) := s.handle r
  let response := response.send rendering declared s.debugging
  (if r.method = "HEAD" then { response with content := .empty } else response, s)

end Service

end DocView.Server
