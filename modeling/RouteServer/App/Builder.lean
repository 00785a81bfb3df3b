import RouteServer.Action.Dispatcher
import RouteServer.App.Controller

/-
  **Building an application** — declaring its routes, one after another.

  Every declaration either adds its routes or fails and adds none.  Mounting a controller is a
  series of declarations: it stops at the first action that is refused, and the routes of the
  actions before it stay.  So a builder step returns the application as it is afterwards together
  with the error, if there was one.
-/

namespace RouteServer

/-- The routes declared so far, and where the not-found action is looked up. -/
structure App where
  routes : Route.Table Action
  notFoundRoute : String

namespace App

def empty : App := ⟨.empty, defaultNotFoundRoute⟩

/-- An application after a declaration, with the error of one that failed. -/
abbrev Step := App × Option Route.RouteError

/-- Declares an action for several methods.  Without methods nothing is declared, and the template
    is not looked at. -/
def route (a : App) (ms : List Method) (template : String) (action : Action) : Step :=
  if ms.isEmpty then (a, none)
  else match a.routes.registerMany ms template action with
    | .ok routes => ({ a with routes }, none)
    | .error e => (a, some e)

/-- Declares the not-found action.  It also is an ordinary route under GET. -/
def pageNotFound (a : App) (template : String) (action : Action) : Step :=
  match Route.compile template with
  | .error e => (a, some e)
  | .ok p =>
    match a.routes.register .get p.template action with
    | .ok routes => (⟨routes, p.template⟩, none)
    | .error e => (a, some e)

/-- Declares actions in order, up to the first that is refused. -/
def declareAll (a : App) : List ActionDecl → Step
  | [] => (a, none)
  | d :: ds =>
    match a.route d.methods d.template d.action with
    | (a, none) => declareAll a ds
    | (a, some e) => (a, some e)

/-- The actions of a controller as they are mounted. -/
def mountedActions (c : Controller) (withName : Bool) : List ActionDecl :=
  if withName then
    c.actions.map fun d =>
      { d with template := Controller.mountedTemplate (Controller.routeStart c.name) d.template }
  else c.actions

/-- Declares the actions of a controller, with its name in front of their routes or without. -/
def mount (a : App) (c : Controller) (withName : Bool) : Step :=
  a.declareAll (mountedActions c withName)

def dispatcher (a : App) (renderer : View.Renderer) : Dispatcher :=
  ⟨a.routes, renderer, a.notFoundRoute⟩

end App

end RouteServer
