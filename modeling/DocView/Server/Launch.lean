import DocView.CommandLine
import DocView.Server.Config

/-!
# Starting the server from the command line

The options of the server, the configuration that they give, and the banner that announces it. A
command line that cannot be understood ends the program with status two; a request for help ends
it with status zero. In neither case is anything started.

## Main definitions

* `Server.options`, `Server.Config.ofSettings`
* `Server.banner`
* `Server.launch`
-/

namespace DocView.Server

open CommandLine (Switch)

/-- The name of the program. -/
def programName : String := "docshape-server"

/-- What the program is. -/
def programSummary : String := "docshape Server - document shaping and saved-query REST API"

/-- The options of the server. -/
def options : List Switch :=
  [⟨["-h", "--help"], .help, "show this help message and exit"⟩,
   ⟨["--host"], .text, "Host to bind to (default: 127.0.0.1)"⟩,
   ⟨["--port"], .integer, "Port to bind to (default: 3001)"⟩,
   ⟨["--config"], .text, "Engine settings YAML file"⟩,
   ⟨["--store"], .oneOf ["memory", "file"], "Saved-query store backend"⟩,
   ⟨["--data-dir"], .text, "Saved-query data directory"⟩,
   ⟨["--reload"], .nothing, "Enable auto-reload for development"⟩,
   ⟨["--log-level"], .oneOf ["DEBUG", "INFO", "WARNING", "ERROR"], "Log level"⟩]

/-- The configuration that the settings of a command line give. -/
def Config.ofSettings (given : List (String × Value)) : Config :=
  let text? (key : String) : Option String :=
    match CommandLine.setting? given key with
    | some (.str s) => some s
    | _ => none
  { Config.default with
    host := (text? "--host").getD Config.default.host
    listenAt := match CommandLine.setting? given "--port" with
      | some (.int n) => n
      | _ => Config.default.listenAt
    settingsFile := text? "--config"
    storeKind := text? "--store"
    dataDirectory := text? "--data-dir"
    reload := (CommandLine.setting? given "--reload").isSome
    logLevel := (text? "--log-level").getD Config.default.logLevel }

/-- A text followed by blanks up to a width. -/
def padded (width : Nat) (s : String) : String := s ++ CommandLine.blanks (width - s.length)

/-- A line of the banner. -/
def bannerLine (s : String) : String := "║  " ++ s ++ " ║\n"

/-- A rule across the banner between two corners. -/
def bannerRule (left right : String) : String :=
  left ++ String.ofList (List.replicate 58 '═') ++ right ++ "\n"

/-- The banner that announces a configuration. -/
def banner (c : Config) : String :=
  let number := intText c.listenAt
  let store := match c.storeKind with
    | some s => if s = "" then "from settings" else s
    | none => "from settings"
  "\n" ++ bannerRule "╔" "╗" ++ "║                    docshape Server                       ║\n"
    ++ bannerRule "╠" "╣"
    ++ bannerLine ("Host:      " ++ padded 44 c.host)
    ++ bannerLine ("Port:      " ++ padded 44 number)
    ++ bannerLine ("Store:     " ++ padded 44 store)
    ++ bannerLine ("Log Level: " ++ padded 44 c.logLevel)
    ++ bannerLine ("API Docs:  http://" ++ c.host ++ ":" ++ number ++ "/docs" ++ padded 24 " ")
    ++ bannerRule "╚" "╝" ++ "    \n"

/-- What becomes of a command line. -/
structure Launch where
  exitCode : Nat
  output : String
  diagnostics : String
  /-- The configuration to start with, if anything is to be started. -/
  start : Option Config
deriving DecidableEq, Repr

/-- What becomes of the words of a command line. -/
def launch (words : List String) : Launch :=
  match CommandLine.parse options words with
  | .ok (.settings given) =>
    let c := Config.ofSettings given
    ⟨0, banner c, "", some c⟩
  | .ok .help => ⟨0, CommandLine.help programName programSummary options, "", none⟩
  | .error fault =>
    ⟨2, "", CommandLine.usage programName options ++ programName ++ ": error: "
      ++ fault.message ++ "\n", none⟩

end DocView.Server
