import RouteServer.Config.Environment
import RouteServer.Log.Filter
import RouteServer.Text.LowerCase

/-
  **Log settings** — the form of the log and what goes into it.

  Unlike other settings these are never refused: what cannot be understood is as good as not set.
  A variable that holds directives for everything comes before the level; a general directive for
  the connection layer and the directives of the target filter are laid over it.
-/

namespace RouteServer.Log

/-- How events are written. -/
inductive Format where
  | json
  | pretty
  deriving DecidableEq, Repr

/-- Reads a format; everything but `pretty`, in any case, is `json`. -/
def Format.ofText (s : String) : Format :=
  if Text.lowerCaseString s = "pretty" then .pretty else .json

structure Config where
  level : String
  format : Format
  /-- written by a thread of its own -/
  async : Bool
  targetFilter : Option String
  includeLocation : Bool
  deriving DecidableEq, Repr

def readFlag? (s : String) : Option Bool :=
  if s = "true" then some true else if s = "false" then some false else none

namespace Config

def ofEnvironment (env : Environment) : Config where
  level := (env "TERRIER_LOG_LEVEL").getD "info"
  format := (env "TERRIER_LOG_FORMAT").elim .json Format.ofText
  async := ((env "TERRIER_LOG_ASYNC").bind readFlag?).getD true
  targetFilter := env "TERRIER_LOG_TARGET_FILTER"
  includeLocation := ((env "TERRIER_LOG_INCLUDE_LOCATION").bind readFlag?).getD false

/-- The level that is set, or else the middle one. -/
def limit (c : Config) : Limit :=
  match Text.lowerCaseString c.level with
  | "trace" => .upTo .trace
  | "debug" => .upTo .debug
  | "warn" => .upTo .warn
  | "error" => .upTo .error
  | _ => .upTo .info

/-- The directives of the target filter, as they are written. -/
def extraDirectives (c : Config) : List (List Char) :=
  match c.targetFilter with
  | none => []
  | some s => ((s.toList.splitOn ',').map Text.trim).filter (!·.isEmpty)

/-- The directive about the connection layer. -/
def connectionDirective : Directive := ⟨some "may_minihttp", none, .upTo .warn⟩

/-- The filter of the log.  `general` are the directives that replace the level. -/
def filter (c : Config) (general : Option String) : Filter :=
  let base := (general.bind Filter.ofText?).getD (Filter.empty.add ⟨none, none, c.limit⟩)
  (c.extraDirectives.filterMap Directive.read?).foldl Filter.addMeaning
    (base.add connectionDirective)

/-- What is said about directives of the target filter that cannot be read. -/
def warnings (c : Config) : List String :=
  (c.extraDirectives.filter fun d => (Directive.read? d).isNone).map fun d =>
    "Warning: Invalid log filter directive: " ++ String.ofList d

end Config

end RouteServer.Log
