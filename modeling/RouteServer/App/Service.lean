import RouteServer.Action.Dispatcher
import RouteServer.Files.Static

/-
  **The service** — one request to one response.

  Routes come first.  A request that no route answers may still ask for a static file, with GET or
  HEAD; HEAD gets the type of the file without its bytes.  Otherwise the answer is that the method
  is not allowed, or that the page was not found.  A crash that leaves the dispatcher leaves the
  service too.
-/

namespace RouteServer

/-- A dispatcher, and the directory of its static files. -/
structure Service where
  dispatcher : Dispatcher
  files : FileTree
  /-- no static files are served without it -/
  staticDir : Option String

namespace Service

def staticFile? (s : Service) (r : Request) : Option Response :=
  if r.method = .get ∨ r.method = .head then
    match s.staticDir with
    | none => none
    | some base =>
      match StaticFiles.load s.files base r.path with
      | .ok (bytes, contentType) =>
        some ⟨200, contentType, if r.method = .head then [] else bytes⟩
      | .error _ => none
  else none

def handle (s : Service) (r : Request) : Except Crash Response :=
  match s.dispatcher.dispatch r with
  | .error message => .error message
  | .ok (.handled answer) => .ok answer
  | .ok (.methodNotAllowed allowed) =>
    .ok ((s.staticFile? r).getD (Dispatcher.methodNotAllowed r allowed))
  | .ok .notFound => (s.staticFile? r).elim (s.dispatcher.notFound r) .ok

end Service

end RouteServer
