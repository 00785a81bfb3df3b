import RouteServer.App.Launch
import RouteServer.Command.Line
import RouteServer.Config.Load
import RouteServer.Demo.Application
import RouteServer.Log.Logger

/-
  **Running commands** — what a command does and how it ends.

  The options of the command line are a layer over all other settings.  They come last, so they do
  not hide an error in the layers below.
-/

namespace RouteServer.Command

def ServeOptions.layer (o : ServeOptions) : SettingsLayer where
  hostname := o.host
  port := o.port
  templateDir := o.templateDir
  staticDir := o.staticDir.map some
  stackSize := none

def ServeOptions.settings (o : ServeOptions) (files : FileTree) (env : Environment) :
    Except ConfigError Settings :=
  (Settings.load files o.config env).map (·.override o.layer)

/-- Why a command failed. -/
inductive Failure where
  | config (e : ConfigError)
  | launch (e : LaunchError)
  deriving DecidableEq, Repr

/-- What is said when the settings cannot be loaded. -/
def configFailure : String := "failed to load configuration"

/-- The texts of a failure, from the outermost to its cause. -/
def Failure.chain (texts : YamlTexts) : Failure → List String
  | .config (.unreadable path e) =>
    [configFailure, (ConfigError.unreadable path e).message texts, e.message]
  | .config (.malformed text) =>
    [configFailure, (ConfigError.malformed text).message texts, texts text]
  | .config e => [configFailure, e.message texts]
  | .launch e => [e.message, e.cause.message]

/-- The causes of a failure, numbered when there are several. -/
def causeLines : List String → List String
  | [] => []
  | [cause] => ["", "Caused by:", "    " ++ cause]
  | causes => "" :: "Caused by:" ::
      causes.zipIdx.map fun (cause, i) => "    " ++ toString i ++ ": " ++ cause

def Failure.report (texts : YamlTexts) (f : Failure) : String :=
  let lines := match f.chain texts with
    | [] => []
    | outermost :: causes => ("Error: " ++ outermost) :: causeLines causes
  String.join (lines.map (· ++ "\n"))

/-- How a run of the program ends. -/
inductive Ending where
  /-- with a text on the standard output -/
  | done (output : String)
  /-- with a server that listens at an address -/
  | serving (ip : Net.IpAddress) (s : Service)
  | failed (f : Failure)
  | refused (e : UsageError)

/-- The exit code of a program that ended; a server does not end. -/
def Ending.exitCode? : Ending → Option Nat
  | .done _ => some 0
  | .serving _ _ => none
  | .failed _ => some 1
  | .refused e => some (if e.isAnswer then 0 else 2)

def routeListing (withNames : Bool) : String := (Demo.application withNames).routes.listing

def perform (texts : View.ErrorTexts) (c : Command) (files : FileTree) (env : Environment)
    (n : Net.Network) : Ending :=
  match c with
  | .routes withNames => .done (routeListing withNames)
  | .serve options =>
    match options.settings files env with
    | .error e => .failed (.config e)
    | .ok settings =>
      match settings.listen n with
      | .ok ip => .serving ip ((Demo.application options.withNames).service texts settings files)
      | .error e => .failed (.launch e)

def run (texts : View.ErrorTexts) (words : List String) (files : FileTree) (env : Environment)
    (n : Net.Network) : Ending :=
  match parse env words with
  | .ok c => c.perform texts files env n
  | .error e => .refused e

/-- The settings file that is named, on the command line or in the environment. -/
def settingsFile? (env : Environment) (words : List String) : Option String :=
  match parse env words with
  | .ok (.serve options) => options.config
  | _ => none

/-- What is said before a command is carried out: a server looks at the settings of its log
    first. -/
def warnings (env : Environment) (words : List String) : List String :=
  match parse env words with
  | .ok (.serve _) => (Log.Config.ofEnvironment env).warnings
  | _ => []

end RouteServer.Command
