import DocView.Path
import DocView.Table

/-!
# Settings

What can be configured: field discovery and type inference, limits of queries, page sizes, and
the store of saved queries. Every setting has a default. Settings are given as objects; a section
that is empty or null is the section of defaults, a setting that is not known is refused, and the
kind of a setting is not checked here but where it is used.

## Main definitions

* `Settings`, `Settings.default`
* `Settings.ofValue`, `Settings.toValue`
* `Settings.storePath`
-/

namespace DocView

namespace Settings

/-- Field discovery and type inference. -/
structure Engine where
  internalPrefix : Value
  typeSample : Value
  fieldSample : Value
deriving Repr, Inhabited

/-- Limits of queries. -/
structure Query where
  defaultLimit : Value
  unboundedLimit : Value
deriving Repr, Inhabited

/-- Sizes of pages. -/
structure Pagination where
  itemsPerPage : Value
  sizeOptions : Value
deriving Repr, Inhabited

/-- Where saved queries are kept. -/
structure Storage where
  backend : Value
  directory : Value
  fileName : Value
  format : Value
deriving Repr, Inhabited

end Settings

/-- All settings. -/
structure Settings where
  engine : Settings.Engine
  query : Settings.Query
  pagination : Settings.Pagination
  storage : Settings.Storage
  logLevel : Value
deriving Repr, Inhabited

namespace Settings

/-- The row limit of a query that asks for none. -/
def defaultLimit : Value := .int 25

/-- The row limit of a query that asks for every row. -/
def unboundedLimit : Value := .int 1000000

/-- The settings that hold unless others are given. -/
def default : Settings where
  engine := ⟨.str "_", .int 10, .null⟩
  query := ⟨defaultLimit, unboundedLimit⟩
  pagination := ⟨.int 25, .array [.int 10, .int 25, .int 50, .int 100]⟩
  storage := ⟨.str "file", .str "./docshape_data", .str "saved_queries.json", .str "json"⟩
  logLevel := .str "INFO"

/-! ### Object forms -/

/-- The section on the engine as an object. -/
def Engine.toMembers (s : Engine) : Members :=
  [("internal_field_prefix", s.internalPrefix), ("type_sample_size", s.typeSample),
   ("field_sample_size", s.fieldSample)]

/-- The section on queries as an object. -/
def Query.toMembers (s : Query) : Members :=
  [("default_limit", s.defaultLimit), ("unbounded_limit", s.unboundedLimit)]

/-- The section on pages as an object. -/
def Pagination.toMembers (s : Pagination) : Members :=
  [("items_per_page", s.itemsPerPage), ("page_size_options", s.sizeOptions)]

/-- The section on the store as an object. -/
def Storage.toMembers (s : Storage) : Members :=
  [("backend", s.backend), ("data_dir", s.directory), ("file_name", s.fileName),
   ("format", s.format)]

/-- All settings as an object. -/
def toValue (s : Settings) : Value :=
  .record [("engine_config", .record s.engine.toMembers),
    ("query_config", .record s.query.toMembers),
    ("pagination_config", .record s.pagination.toMembers),
    ("store_config", .record s.storage.toMembers),
    ("log_level", s.logLevel)]

/-- Defaults overlaid with given members, all of which have to be known. -/
def fill (owner : String) (defaults given : Members) : Result Members :=
  match given.find? fun entry => !Members.has defaults entry.1 with
  | some (name, _) => .error (.unexpectedOption owner name)
  | none => .ok (Members.overlay defaults given)

/-- A section whose given part is the value of a member. -/
def fillSection (owner : String) (defaults : Members) (given : Value) : Result Members :=
  if !given.truthy then .ok defaults
  else match given with
    | .object _ members => fill owner defaults members
    | v => .error (.badArgument
        (owner ++ " must be an object, not " ++ v.kindName))

/-- The entries of a table all of whose keys are names. -/
def named : List (Value × Value) → Result Members
  | [] => .ok []
  | (.str name, value) :: rest => do .ok ((name, value) :: (← named rest))
  | _ :: _ => .error (.badArgument "keywords must be strings")

/-- Settings from their object form. -/
def ofValue (v : Value) : Result Settings := do
  let given := Members.ofEntries (← named (← Table.entries v))
  let sections := ["engine_config", "query_config", "pagination_config", "store_config"]
  let engine ← fillSection "engine_config" default.engine.toMembers
    (Value.member given "engine_config")
  let query ← fillSection "query_config" default.query.toMembers
    (Value.member given "query_config")
  let pagination ← fillSection "pagination_config" default.pagination.toMembers
    (Value.member given "pagination_config")
  let storage ← fillSection "store_config" default.storage.toMembers
    (Value.member given "store_config")
  let top ← fill "settings" [("log_level", default.logLevel)] (Members.without given sections)
  .ok {
    engine := ⟨Value.member engine "internal_field_prefix", Value.member engine "type_sample_size",
      Value.member engine "field_sample_size"⟩
    query := ⟨Value.member query "default_limit", Value.member query "unbounded_limit"⟩
    pagination := ⟨Value.member pagination "items_per_page",
      Value.member pagination "page_size_options"⟩
    storage := ⟨Value.member storage "backend", Value.member storage "data_dir",
      Value.member storage "file_name", Value.member storage "format"⟩
    logLevel := Value.member top "log_level" }

/-- The path that a value names. -/
def pathOf : Value → Result Path
  | .str s => .ok (.ofText s)
  | v => .error (.badArgument
      ("expected str, bytes or os.PathLike object, not " ++ v.kindName))

/-- The path of the store's file. -/
def storePath (s : Settings) : Result Path := do
  let directory ← pathOf s.storage.directory
  .ok (directory.join (← pathOf s.storage.fileName))

end Settings

end DocView
