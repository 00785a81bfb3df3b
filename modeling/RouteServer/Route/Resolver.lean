import RouteServer.Route.Table

/-
  **Resolution** — from a method and a path to a route.

  Only the entries of the request's own method are tried, in the order of their registration, and
  the first that matches wins.  A method without entries is not allowed at all, which is told apart
  from a path that none of its entries matches.
-/

namespace RouteServer.Route

/-- A route that was found, with the texts it captured. -/
structure Resolved (H : Type) where
  entry : Entry H
  values : List String

inductive ResolveError where
  /-- the method has routes, and none of them matches -/
  | notFound
  /-- the method has no routes; these methods do -/
  | methodNotAllowed (allowed : List Method)
  deriving DecidableEq, Repr

def ResolveError.message : ResolveError → String
  | .notFound => "no route matches the request path"
  | .methodNotAllowed allowed =>
    "method not allowed; routes exist for: " ++ ", ".intercalate (allowed.map Method.token)

variable {H : Type}

/-- The first entry that matches a path. -/
def firstMatch (path : String) : List (Entry H) → Option (Resolved H)
  | [] => none
  | e :: r =>
    match e.pattern.captures path with
    | some values => some ⟨e, values⟩
    | none => firstMatch path r

def Table.resolve (t : Table H) (path : String) (m : Method) : Except ResolveError (Resolved H) :=
  match t.entriesFor m with
  | [] => .error (.methodNotAllowed t.methods)
  | e :: r =>
    match firstMatch path (e :: r) with
    | some found => .ok found
    | none => .error .notFound

/-- A text filled up with spaces to a number of characters. -/
def padTo (width : Nat) (s : String) : String :=
  s ++ String.ofList (List.replicate (width - s.length) ' ')

/-- One line of the listing: method, template and regular expression. -/
def listingRow (m : Method) (e : Entry H) : String :=
  padTo 7 m.token ++ " " ++ padTo 45 e.pattern.template ++ " " ++ e.pattern.expression ++ "\n"

/-- All routes, one line each, in the order in which they are tried. -/
def Table.listing (t : Table H) : String :=
  String.join (t.toList.map fun r => listingRow r.1 r.2)

end RouteServer.Route
