import RouteServer.Log.Config

/-
  **The logger** — installed once, and from then on deciding about events.

  A second attempt to install a logger fails and changes nothing, but it reads the settings again,
  so what was said about bad directives is said again.
-/

namespace RouteServer.Log

/-- A logger that is installed. -/
structure Logger where
  config : Config
  filter : Filter
  deriving DecidableEq, Repr

/-- Why a logger could not be installed: there is one. -/
inductive InstallError where
  | taken (async : Bool)
  deriving DecidableEq, Repr

def InstallError.message : InstallError → String
  | .taken true => "Failed to initialize async logging"
  | .taken false => "Failed to initialize sync logging"

/-- What an event is written with. -/
structure Line where
  level : Level
  target : String
  /-- with the file and the line it comes from -/
  location : Bool
  /-- with the number of its thread -/
  thread : Bool
  deriving DecidableEq, Repr

namespace Logger

/-- Installs a logger where none is, with the warnings of doing so. -/
def install (installed : Option Logger) (env : Environment) :
    Except InstallError Logger × List String :=
  let config := Config.ofEnvironment env
  let result := match installed with
    | some _ => .error (.taken config.async)
    | none => .ok ⟨config, config.filter (env "RUST_LOG")⟩
  (result, config.warnings)

/-- What is written for an event, if it passes. -/
def emit (l : Logger) (target : String) (level : Level) : Option Line :=
  if l.filter.lets target level then
    some ⟨level, target, l.config.includeLocation, l.config.format = .json⟩
  else none

end Logger

end RouteServer.Log
