import RouteServer.App.Builder
import RouteServer.Demo.Users

/-
  **The demonstration** — an application with a bit of everything: a page, typed path values, a
  controller and a not-found page.
-/

namespace RouteServer.Demo

def users : Users := .generate 100

def greet : Action := fun _ _ =>
  .done (.view "index.html" (Json.object
    [("message", .str "App works!"), ("users_count", .int users.size)]))

def showUser : Action := fun _ params =>
  match params.int 0 with
  | .error e => .ofParam (.error e)
  | .ok id =>
    match users.get? id with
    | some user => .done (.data 200 user.toJson)
    | none =>
      .done (.data 404 (Json.object [("error", .str ("user " ++ toString id ++ " not found"))]))

def showRoom : Action := fun _ params =>
  .ofParam (match params.int 0 with
    | .error e => .error e
    | .ok user =>
      match params.text 1 with
      | .error e => .error e
      | .ok room => .ok (.data 200 (Json.object [("user", .int user), ("room", .str room)])))

def echoWord : Action := fun _ params => .ofParam ((params.text 0).map (.text 200))

/-- Lists users, ten unless the query says how many. -/
def listUsers : Action := fun r _ =>
  let limit := ((r.queryParams.get? "limit").bind fun s =>
    Text.Numeral.unsigned? 10 64 s.toList).getD 10
  .done (.data 200 (.arr ((users.toList.take limit).map User.toJson)))

/-- Takes in a user, who has to have a name. -/
def saveUser : Action := fun r _ =>
  let name := (r.form.get? "name").getD ""
  if name.isEmpty then .done (.data 400 (Json.object [("error", .str "name is required")]))
  else .done (.data 201 (Json.object
    [("name", .str name), ("email", (r.form.get? "email").elim .null .str)]))

def reportMissing : Action := fun r _ =>
  .done (.view "pagenotfound.html" (Json.object [("path", .str r.path)]))

def userController : Controller :=
  ⟨"UserController", [.single .get "/list" listUsers, .single .post "/save" saveUser]⟩

/-- The declarations of the demonstration, in order.  `withName` puts the name of the controller in
    front of its routes. -/
def declarations (withName : Bool) : List (App → App.Step) := [
  fun a => a.route [.get] "/" greet,
  fun a => a.route [.get] "/api/user/\x7bid:int\x7d" showUser,
  fun a => a.route [.get] "/api/user/\x7bid:int\x7d/room/\x7broom_name:str\x7d" showRoom,
  fun a => a.route [.get] "/api/echo/\x7bword:str\x7d" echoWord,
  fun a => a.mount userController withName,
  fun a => a.pageNotFound defaultNotFoundRoute reportMissing]

def application (withName : Bool) : App :=
  (declarations withName).foldl (fun a declare => (declare a).1) App.empty

end RouteServer.Demo
