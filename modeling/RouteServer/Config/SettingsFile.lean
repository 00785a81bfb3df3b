import RouteServer.Config.Error
import RouteServer.Config.Settings
import RouteServer.Yaml.Document

/-
  **Settings files** — YAML documents with a flat mapping of settings.

  Every key has to be the name of a setting and none may occur twice.  Texts are taken as they are
  written, whatever they look like; numbers have to be plain whole numbers that fit the setting.  A
  stack size of zero is not refused here.
-/

namespace RouteServer.SettingsFile

/-- Sets a field that has no value yet. -/
def setOnce? (old : Option α) (new : Option α) : Option (Option α) :=
  match old, new with
  | none, some v => some (some v)
  | _, _ => none

def addSetting? (l : SettingsLayer) (key value : Yaml.Scalar) : Option SettingsLayer :=
  match key.string with
  | "hostname" => (setOnce? l.hostname (some value.string)).map ({ l with hostname := · })
  | "port" => (setOnce? l.port (value.nat? 16)).map ({ l with port := · })
  | "template_dir" => (setOnce? l.templateDir (some value.string)).map ({ l with templateDir := · })
  | "static_dir" => (setOnce? l.staticDir value.optionalString?).map ({ l with staticDir := · })
  | "stack_size" => (setOnce? l.stackSize (value.nat? 64)).map ({ l with stackSize := · })
  | _ => none

def addSettings? (l : SettingsLayer) : List (Yaml.Scalar × Yaml.Scalar) → Option SettingsLayer
  | [] => some l
  | (key, value) :: r =>
    match addSetting? l key value with
    | some l => addSettings? l r
    | none => none

def ofText (text : List Char) : Except ConfigError SettingsLayer :=
  match (Yaml.entries? text).bind (addSettings? .empty) with
  | some l => .ok l
  | none => .error (.malformed (String.ofList text))

def load (files : FileTree) (path : String) : Except ConfigError SettingsLayer :=
  match files.read path with
  | .error e => .error (.unreadable path (.file e))
  | .ok bytes =>
    match Text.Utf8.decode? bytes with
    | none => .error (.unreadable path .notText)
    | some text => ofText text

end RouteServer.SettingsFile
