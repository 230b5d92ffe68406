import DocView.Settings
import DocView.Yaml.Node

/-!
# Settings in configuration files

A configuration file holds settings in their object form. A file that is missing, and one without
a document, gives the defaults. The keys of the file and of its sections have to be names.

## Main definitions

* `Settings.ofText`, `Settings.ofFile`
-/

namespace DocView.Settings

/-- The sections of a configuration file. -/
def sectionNames : List String :=
  ["engine_config", "query_config", "pagination_config", "store_config"]

/-- Whether an entry is a section in which some key is no name. -/
def isMisnamed (entry : Yaml.Node × Yaml.Node) : Bool :=
  match entry.1.value with
  | .ok (.str name) => sectionNames.contains name && !entry.2.hasNames
  | _ => true

/-- Whether some key of a file, or of one of its sections, is no name. -/
def hasMisnamed : Yaml.Node → Bool
  | .mapping entries => entries.any isMisnamed
  | _ => false

/-- Settings from the text of a file. -/
def ofText (s : String) : Result Settings := do
  match ← Yaml.Node.ofText? s with
  | none => .ok default
  | some node =>
    match ← node.value with
    | .null => .ok default
    | v =>
      if hasMisnamed node then .error (.badArgument "keywords must be strings") else ofValue v

/-- Settings from a file that need not be there. -/
def ofFile : Option String → Result Settings
  | none => .ok default
  | some s => ofText s

end DocView.Settings
