import RouteServer.Text.Split

/-
  **Request targets** — a path and a query string.

  The query begins behind the first question mark.  Without one it is empty, and a target without a
  path asks for `/`.
-/

namespace RouteServer

structure Target where
  path : String
  query : String
  deriving DecidableEq, Repr

/-- Cuts a target at its first question mark. -/
def Target.ofString (s : String) : Target :=
  let (path, query) := (Text.splitFirst '?' s.toList).getD (s.toList, [])
  ⟨if path.isEmpty then "/" else String.ofList path, String.ofList query⟩

end RouteServer
