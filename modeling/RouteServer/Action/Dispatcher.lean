import RouteServer.Action.Outcome
import RouteServer.Http.Response
import RouteServer.Route.Resolver
import RouteServer.View.Error

/-
  **Dispatching** — running the action of a route and turning its outcome into a response.

  An outcome has a response: a view is rendered, data and text are written as they are, a bad path
  value is the client's error and any other failure the server's, and a crash of the action is
  caught.  A view is rendered when the action is over, so a crash of the renderer is not caught and
  leaves the dispatcher.  When no route matches, the not-found action answers.  It is looked up like
  any other route, under GET, at the path that was declared for it, and a status that would tell of
  success becomes 404.
-/

namespace RouteServer

/-- Where the not-found action is looked up unless the application says otherwise. -/
def defaultNotFoundRoute : String := "/pagenotfound"

/-- The routes of an application and its renderer. -/
structure Dispatcher where
  routes : Route.Table Action
  renderer : View.Renderer
  notFoundRoute : String

/-- How dispatching a request ends. -/
inductive Dispatched where
  | handled (r : Response)
  /-- the method has routes, and none of them matches -/
  | notFound
  /-- the method has no routes; these methods do -/
  | methodNotAllowed (allowed : List Method)
  deriving DecidableEq, Repr

namespace Dispatcher

def respondResult (renderer : View.Renderer) : Result → Except Crash Response
  | .view template context =>
    match renderer template context with
    | .page text => .ok (Response.html 200 text)
    | .failed e => .ok (Response.error 500 e.message)
    | .crashed message => .error message
  | .data status body => .ok (Response.json status body)
  | .text status body => .ok (Response.text status body)

def respond (renderer : View.Renderer) : Outcome → Except Crash Response
  | .done r => respondResult renderer r
  | .failed f => .ok (Response.error (if f.isParamError then 400 else 500) f.message)
  | .crashed message =>
    .ok (Response.error 500 ("Action panicked: " ++ message.getD "unknown panic"))

/-- The values that a path gave to its route, with the placeholders of the route. -/
def paramsOf (found : Route.Resolved Action) : PathParams :=
  ⟨found.values, found.entry.pattern.params⟩

def run (d : Dispatcher) (found : Route.Resolved Action) (r : Request) : Except Crash Response :=
  respond d.renderer (found.entry.handler r (paramsOf found))

/-- Finds the route of a request and runs its action. -/
def dispatch (d : Dispatcher) (r : Request) : Except Crash Dispatched :=
  match d.routes.resolve r.path r.method with
  | .ok found => (d.run found r).map .handled
  | .error .notFound => .ok .notFound
  | .error (.methodNotAllowed allowed) => .ok (.methodNotAllowed allowed)

/-- The answer when there is no not-found action. -/
def plainNotFound (r : Request) : Response :=
  Response.json 404 (Json.object
    [("error", .str "Not Found"), ("method", .str r.method.token), ("path", .str r.path)])

/-- The answer of an action to a miss, whose status never tells of success. -/
def missed (answer : Response) : Response :=
  if answer.status < 400 then { answer with status := 404 } else answer

/-- The answer to a request that no route matches. -/
def notFound (d : Dispatcher) (r : Request) : Except Crash Response :=
  match d.routes.resolve d.notFoundRoute .get with
  | .ok found => (d.run found r).map missed
  | .error _ => .ok (plainNotFound r)

/-- The answer to a request whose method has no routes. -/
def methodNotAllowed (r : Request) (allowed : List Method) : Response :=
  Response.json 405 (Json.object
    [("error", .str "Method Not Allowed"), ("method", .str r.method.token), ("path", .str r.path),
     ("allowed", .arr (allowed.map fun m => .str m.token))])

end Dispatcher

end RouteServer
