import DocView.Error
import DocView.Text.Split

/-!
# Configuration of the server

Where the server listens, which part of its address space the service takes, where settings and
saved queries come from, and how large a request may be. A configuration is given by environment
variables, by options on the command line, or as an object.

## Main definitions

* `Server.Config`, `Server.Config.default`
* `Server.Config.ofEnvironment`, `Server.Config.ofMembers`
-/

namespace DocView.Server

/-- The configuration of a server. -/
structure Config where
  host : String
  /-- The number at which the host listens. -/
  listenAt : Int
  workers : Int
  reload : Bool
  /-- What the paths of the service start with. -/
  pathPrefix : String
  documentation : Bool
  /-- The file of settings. -/
  settingsFile : Option String
  /-- The kind of store; the settings decide if there is none. -/
  storeKind : Option String
  /-- The directory of the store; the settings decide if there is none. -/
  dataDirectory : Option String
  /-- The origins from which browsers may ask. -/
  origins : List String
  /-- The most documents in one request. -/
  maxDocuments : Int
  logLevel : String
deriving DecidableEq, Repr

namespace Config

/-- The configuration that holds unless another is given. -/
def default : Config where
  host := "127.0.0.1"
  listenAt := 3001
  workers := 1
  reload := false
  pathPrefix := "/api"
  documentation := true
  settingsFile := none
  storeKind := none
  dataDirectory := none
  origins := ["*"]
  maxDocuments := 100000
  logLevel := "INFO"

/-- The configuration as an object. -/
def toMembers (c : Config) : Members :=
  [("host", .str c.host), ("port", .int c.listenAt), ("workers", .int c.workers),
   ("reload", .bool c.reload), ("api_prefix", .str c.pathPrefix),
   ("docs_enabled", .bool c.documentation), ("config_path", .ofText? c.settingsFile),
   ("store_backend", .ofText? c.storeKind), ("data_dir", .ofText? c.dataDirectory),
   ("cors_origins", .array (c.origins.map .str)),
   ("max_documents_per_request", .int c.maxDocuments), ("log_level", .str c.logLevel)]

/-! ### Environment variables -/

/-- The variables of a process with their values. -/
abbrev Environment := List (String × String)

/-- A text as an integer. -/
def integer (s : String) : Result Int :=
  match Text.integer? s with
  | .ok n => .ok n
  | .error .malformed => .error (.malformedInteger s)
  | .error (.tooManyDigits count) => .error (.tooManyDigits count)

/-- The integer that a variable holds. -/
def integerOf (environment : Environment) (name : String) (default : Int) : Result Int :=
  match List.lookup name environment with
  | some s => integer s
  | none => .ok default

/-- The items of a list with commas that are not blank. -/
def originsOf (s : String) : List String := (Text.commaItems s).filter (· != "")

/-- The configuration that environment variables give. An empty variable counts as given. -/
def ofEnvironment (environment : Environment) : Result Config := do
  let value? (name : String) := List.lookup ("DOCSHAPE_" ++ name) environment
  .ok { default with
    host := (value? "HOST").getD default.host
    listenAt := ← integerOf environment "DOCSHAPE_PORT" default.listenAt
    workers := ← integerOf environment "DOCSHAPE_WORKERS" default.workers
    settingsFile := value? "CONFIG"
    storeKind := value? "STORE"
    dataDirectory := value? "DATA_DIR"
    origins := match value? "CORS_ORIGINS" with
      | some s => originsOf s
      | none => default.origins
    logLevel := (value? "LOG_LEVEL").getD default.logLevel
    maxDocuments := ← integerOf environment "DOCSHAPE_MAX_DOCUMENTS" default.maxDocuments }

/-! ### Object form -/

/-- A failure over a member that is not of the right kind. -/
def misfit {α : Type} (name : String) (v : Value) : Result α :=
  .error (.badArgument (name ++ " cannot be given as " ++ v.kindName))

/-- A member that is text. -/
def textMember (given : Members) (name default : String) : Result String :=
  match Members.get? given name with
  | none => .ok default
  | some (.str s) => .ok s
  | some v => misfit name v

/-- A member that is text or null. -/
def textMember? (given : Members) (name : String) : Result (Option String) :=
  match Members.get? given name with
  | none | some .null => .ok none
  | some (.str s) => .ok (some s)
  | some v => misfit name v

/-- A member that is an integer. -/
def integerMember (given : Members) (name : String) (default : Int) : Result Int :=
  match Members.get? given name with
  | none => .ok default
  | some (.int n) => .ok n
  | some v => misfit name v

/-- A member that counts as true or false. -/
def flagMember (given : Members) (name : String) (default : Bool) : Bool :=
  ((Members.get? given name).map Value.truthy).getD default

/-- A member that is a list of texts. -/
def textsMember (given : Members) (name : String) (default : List String) : Result (List String) :=
  match Members.get? given name with
  | none => .ok default
  | some v => do
    (← v.elements?).mapM fun
      | .str s => .ok s
      | other => misfit name other

/-- The configuration that an object gives. All of its members have to be known. -/
def ofMembers (given : Members) : Result Config :=
  match given.find? fun entry => !Members.has default.toMembers entry.1 with
  | some (name, _) => .error (.unexpectedOption "configuration" name)
  | none => do
    .ok {
      host := ← textMember given "host" default.host
      listenAt := ← integerMember given "port" default.listenAt
      workers := ← integerMember given "workers" default.workers
      reload := flagMember given "reload" default.reload
      pathPrefix := ← textMember given "api_prefix" default.pathPrefix
      documentation := flagMember given "docs_enabled" default.documentation
      settingsFile := ← textMember? given "config_path"
      storeKind := ← textMember? given "store_backend"
      dataDirectory := ← textMember? given "data_dir"
      origins := ← textsMember given "cors_origins" default.origins
      maxDocuments := ← integerMember given "max_documents_per_request" default.maxDocuments
      logLevel := ← textMember given "log_level" default.logLevel }

end Config

end DocView.Server
