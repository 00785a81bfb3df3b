import RouteServer.Action.Outcome
import RouteServer.Text.LowerCase
import RouteServer.Text.Split

/-
  **Controllers** — actions that are declared together under a name.

  A controller may be mounted with its name in front of its routes.  The name then loses a final
  `Controller` and its first letter becomes small, so the routes of a `UserController` begin with
  `/user/`.
-/

namespace RouteServer

structure ActionDecl where
  template : String
  /-- the methods it answers, its own verb first -/
  methods : List Method
  action : Action

namespace ActionDecl

def single (m : Method) (template : String) (action : Action) : ActionDecl :=
  ⟨template, [m], action⟩

/-- Adds a method behind the others, unless it is there. -/
def addMethod (ms : List Method) (m : Method) : List Method := if m ∈ ms then ms else ms ++ [m]

def also (d : ActionDecl) (ms : List Method) : ActionDecl :=
  { d with methods := ms.foldl addMethod d.methods }

end ActionDecl

/-- A name and the actions declared under it. -/
structure Controller where
  name : String
  actions : List ActionDecl

namespace Controller

/-- What the name of a controller puts in front of its routes. -/
def routeStart (name : String) : String :=
  let base := (Text.stripEnd "Controller".toList name.toList).getD name.toList
  match base with
  | [] => ""
  | c :: r => String.ofList (Text.lowerCase c ++ r)

/-- A template with a first path segment in front of it. -/
def mountedTemplate (start template : String) : String :=
  match template.toList with
  | '/' :: _ => "/" ++ start ++ template
  | _ => "/" ++ start ++ "/" ++ template

end Controller

end RouteServer
