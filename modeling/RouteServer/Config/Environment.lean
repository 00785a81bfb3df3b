import RouteServer.Config.Error
import RouteServer.Config.Settings
import RouteServer.Text.Blank
import RouteServer.Text.Numeral

/-
  **Environment variables** — settings that the environment gives.

  Texts are taken as they are, except that an empty static directory switches static files off.
  Space around numbers does not count.  A number that cannot be read is an error, and of two such
  numbers the port is reported.
-/

namespace RouteServer

/-- The value of each environment variable that is set. -/
abbrev Environment := String → Option String

namespace Environment

/-- The environment of some variables; the first of a name counts. -/
def ofList (vars : List (String × String)) : Environment := fun name =>
  (vars.find? (·.1 = name)).map (·.2)

def port? (s : String) : Option Nat := Text.Numeral.unsigned? 10 16 (Text.trim s.toList)

/-- Reads a stack size: a decimal number, or a hexadecimal one behind `0x`, and never zero. -/
def stackSize? (s : String) : Option Nat :=
  let read := match Text.trim s.toList with
    | '0' :: 'x' :: r => Text.Numeral.unsigned? 16 64 r
    | '0' :: 'X' :: r => Text.Numeral.unsigned? 16 64 r
    | r => Text.Numeral.unsigned? 10 64 r
  read.filter (0 < ·)

def number (env : Environment) (name : String) (read? : String → Option Nat) :
    Except ConfigError (Option Nat) :=
  match env name with
  | none => .ok none
  | some value =>
    match read? value with
    | some n => .ok (some n)
    | none => .error (.invalidValue name value)

/-- What the environment says about the settings. -/
def settings (env : Environment) : Except ConfigError SettingsLayer :=
  match env.number "TERRIER_PORT" port? with
  | .error e => .error e
  | .ok port =>
    match env.number "TERRIER_STACK_SIZE" stackSize? with
    | .error e => .error e
    | .ok stackSize =>
      .ok
        { hostname := env "TERRIER_HOST"
          port
          templateDir := env "TERRIER_TEMPLATE_DIR"
          staticDir := (env "TERRIER_STATIC_DIR").map fun d => if d.isEmpty then none else some d
          stackSize }

end Environment

end RouteServer
