import RouteServer.Action.Params
import RouteServer.Http.Request

/-
  **Actions and their outcomes** — what the application runs for a route, and how that may end.

  An action returns a result, fails, or crashes.  A failure has a cause and any number of contexts
  put around it; its text is that of the outermost context.  Whether a bad path value was the cause
  decides who is to blame, the client or the server, so it stays visible under all contexts.  A bad
  path value that is itself put around a failure is seen there too.  An error that merely has one
  behind it is a cause of its own (`Cause.chained`).
-/

namespace RouteServer

/-- What an action returns. -/
inductive Result where
  /-- a template to render with a context -/
  | view (template : String) (context : Json)
  | data (status : Nat) (body : Json)
  | text (status : Nat) (body : String)

/-- What made an action fail. -/
inductive Cause where
  | param (e : ParamError)
  | other (message : String)
  /-- an error of another kind, with the error behind it -/
  | chained (message : String) (source : Cause)
  deriving DecidableEq, Repr

def Cause.message : Cause → String
  | .param e => e.message
  | .other m => m
  | .chained m _ => m

/-- Whether it is a bad path value.  What is behind it does not count. -/
def Cause.isParam : Cause → Bool
  | .param _ => true
  | .other _ | .chained _ _ => false

/-- What is put around a failure: mostly a text, but any value with a text will do. -/
inductive ErrorContext where
  | text (message : String)
  | param (e : ParamError)
  deriving DecidableEq, Repr

def ErrorContext.message : ErrorContext → String
  | .text m => m
  | .param e => e.message

def ErrorContext.isParam : ErrorContext → Bool
  | .text _ => false
  | .param _ => true

/-- A failure: its cause, and the contexts around it, the outermost first. -/
structure Failure where
  cause : Cause
  contexts : List ErrorContext
  deriving DecidableEq, Repr

namespace Failure

def ofCause (c : Cause) : Failure := ⟨c, []⟩

/-- A failure with one more context around it. -/
def context (f : Failure) (c : ErrorContext) : Failure := { f with contexts := c :: f.contexts }

/-- The text of the outermost context, or of the cause when there is none. -/
def message (f : Failure) : String :=
  (f.contexts.head?.map ErrorContext.message).getD f.cause.message

/-- Whether a bad path value is the cause or one of the contexts. -/
def isParamError (f : Failure) : Bool := f.contexts.any ErrorContext.isParam || f.cause.isParam

end Failure

/-- What is left of code that broke off: its message, if it had one. -/
abbrev Crash := Option String

/-- How running an action ends. -/
inductive Outcome where
  | done (r : Result)
  | failed (f : Failure)
  /-- the action broke off -/
  | crashed (message : Crash)

/-- Ends with a result, or fails because a path value could not be read. -/
def Outcome.ofParam (r : Except ParamError Result) : Outcome :=
  match r with
  | .ok r => .done r
  | .error e => .failed (.ofCause (.param e))

/-- What runs for a route. -/
abbrev Action := Request → PathParams → Outcome

end RouteServer
