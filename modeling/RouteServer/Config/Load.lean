import RouteServer.Config.Environment
import RouteServer.Config.SettingsFile

/-
  **Loading settings** — the standard settings, a file, and the environment over both.

  Errors are found in this order too: whatever is wrong with the file is reported before the
  environment is looked at.
-/

namespace RouteServer.Settings

def withEnvironment (s : Settings) (env : Environment) : Except ConfigError Settings :=
  env.settings.map s.override

/-- The settings of a file that may not be asked for, and of the environment. -/
def load (files : FileTree) (path : Option String) (env : Environment) :
    Except ConfigError Settings :=
  match path with
  | none => standard.withEnvironment env
  | some path =>
    match SettingsFile.load files path with
    | .error e => .error e
    | .ok l => (standard.override l).withEnvironment env

def ofText (text : String) : Except ConfigError Settings :=
  (SettingsFile.ofText text.toList).map standard.override

end RouteServer.Settings
