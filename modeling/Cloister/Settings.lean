import Cloister.Datum
import Cloister.Path
import Cloister.Policy.TokenSet
import Cloister.Settings.Environment
import Cloister.Text.Case

/-! # Settings

Everything that shapes a sandbox, read from an environment once.

* `Settings`: the settings, with their defaults.
* `Settings.ofEnvironment`: the settings that an environment asks for.
* `Settings.tokens`: the capability tokens.
* `Settings.problems`: what is odd about the settings; oddities are reported, never refused.
* `Settings.summary`: the settings as shown in reports.
* `Settings.agree`: equality up to the environment that they were read from.
-/

namespace Cloister
set_option autoImplicit false

/-- Everything that shapes a sandbox. -/
structure Settings where
  applicationParams : String := ""
  userParams : String := ""
  homeAccess : List String := []
  readAccess : List String := []
  deviceAccess : List String := []
  socketAccess : List String := []
  displayChoice : String := ""
  sessionType : String := ""
  home : String := ""
  runtimeDir : String := ""
  xauthority : String := ""
  backend : String := "/usr/bin/bwrap"
  programDir : String := "/usr/bin"
  searchPath : String := "/bin:/usr/bin"
  logLevel : String := "WARNING"
  logFormat : String := "text"
  environment : Environment := .empty
  deriving DecidableEq, Repr

namespace Settings

def variableNames : List String :=
  ["SB_APPLICATION_SANDBOX_PARAMS", "SB_USER_SANDBOX_PARAMS", "SB_HOME_RW_ACCESS",
    "SB_RO_ACCESS", "SB_DEV_ACCESS", "SB_SOCKET_ACCESS", "SB_WINDOW_SYSTEM", "XDG_SESSION_TYPE",
    "HOME", "XDG_RUNTIME_DIR", "XAUTHORITY", "SB_BWRAP_BIN", "LOG_LEVEL", "LOG_FORMAT"]

def ofEnvironment (e : Environment) : Settings :=
  let entries (name : String) : List String := (Entries.parse [e.get? name]).toList
  { applicationParams := e.getD "SB_APPLICATION_SANDBOX_PARAMS" ""
    userParams := e.getD "SB_USER_SANDBOX_PARAMS" ""
    homeAccess := entries "SB_HOME_RW_ACCESS"
    readAccess := entries "SB_RO_ACCESS"
    deviceAccess := entries "SB_DEV_ACCESS"
    socketAccess := entries "SB_SOCKET_ACCESS"
    displayChoice := e.getD "SB_WINDOW_SYSTEM" ""
    sessionType := e.getD "XDG_SESSION_TYPE" ""
    home := e.getD "HOME" ""
    runtimeDir := e.getD "XDG_RUNTIME_DIR" ""
    xauthority := e.getD "XAUTHORITY" ""
    backend := e.getD "SB_BWRAP_BIN" "/usr/bin/bwrap"
    logLevel := Text.toUpper (e.getD "LOG_LEVEL" "WARNING")
    logFormat := Text.toLower (e.getD "LOG_FORMAT" "text")
    environment := e }

def tokens (s : Settings) : TokenSet := .ofSources (some s.applicationParams) (some s.userParams)

/-- What can be odd about settings. -/
inductive Problem where
  | relativeHome
  | relativeRuntimeDir
  | relativeXauthority
  | unknownLogFormat
  deriving DecidableEq, Repr

def Problem.message : Problem → String
  | relativeHome => "HOME should be an absolute path"
  | relativeRuntimeDir => "XDG_RUNTIME_DIR should be an absolute path"
  | relativeXauthority => "XAUTHORITY should be an absolute path"
  | unknownLogFormat => "LOG_FORMAT must be 'json' or 'text'"

/-- Whether a path is given and is not absolute. -/
def isRelative (path : String) : Bool := path != "" && !Path.isAbsolute path

def problems (s : Settings) : List Problem :=
  (if isRelative s.home then [.relativeHome] else []) ++
    (if isRelative s.runtimeDir then [.relativeRuntimeDir] else []) ++
    (if isRelative s.xauthority then [.relativeXauthority] else []) ++
    (if s.logFormat = "json" ∨ s.logFormat = "text" then [] else [.unknownLogFormat])

def isValid (s : Settings) : Bool := s.problems.isEmpty

/-- The environment of the confinement program: the one that was read, with the search path pinned. -/
def backendEnvironment (s : Settings) : Environment := s.environment.set "PATH" s.searchPath

def summary (s : Settings) : Datum :=
  .object
    [("params", .object
        [("application", .text s.applicationParams), ("user", .text s.userParams)]),
      ("access", .object
        [("home_rw", .texts s.homeAccess), ("ro", .texts s.readAccess),
          ("dev", .texts s.deviceAccess), ("socket", .texts s.socketAccess)]),
      ("window", .object
        [("override", .text s.displayChoice), ("session_type", .text s.sessionType)]),
      ("paths", .object
        [("home", .text s.home), ("runtime_dir", .text s.runtimeDir),
          ("xauthority", .text s.xauthority)]),
      ("bwrap_bin", .text s.backend)]

/-- Whether two settings ask for the same, wherever they were read from. -/
def agree (a b : Settings) : Bool :=
  decide ({ a with environment := .empty } = { b with environment := .empty })

end Settings
end Cloister
