import RouteServer.Http.Fields
import RouteServer.Http.Method
import RouteServer.Json.Value

/-
  **Requests** — what an action is given to work on.

  The names of the headers are in lower case when the request came over a connection.  A body is
  kept as it came, and beside it as form fields or as a JSON value when it could be read as such.
-/

namespace RouteServer

structure Request where
  method : Method
  /-- the path without the query string -/
  path : String
  /-- the query string as it came, without the question mark -/
  query : String
  queryParams : Fields
  headers : Fields
  cookies : Fields
  /-- the fields of a form in the body -/
  form : Fields
  /-- the JSON value in the body -/
  body : Option Json
  /-- the body as it came -/
  rawBody : List UInt8

namespace Request

/-- A request that has nothing but a method and a path. -/
def bare (method : Method) (path : String) : Request :=
  ⟨method, path, "", Fields.empty, Fields.empty, Fields.empty, Fields.empty, none, []⟩

/-- The value of a header, whatever the case of its name. -/
def header? (r : Request) (name : String) : Option String := r.headers.getIgnoringCase? name

end Request

end RouteServer
