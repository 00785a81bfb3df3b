import RouteServer.Http.Fields
import RouteServer.Text.Blank
import RouteServer.Text.Split

/-
  **Cookies** — the name-value pairs of a `cookie` header.

  Pairs stand between semicolons and are cut at their first `=`.  Blank characters around a pair, a
  name or a value do not count.  A pair with a blank name is skipped, one without `=` has an empty
  value, and of two pairs with one name the later counts.
-/

namespace RouteServer.Cookie

/-- One pair, unless its name is blank. -/
def readPair? (piece : List Char) : Option (String × String) :=
  let (name, value) := (Text.splitFirst '=' (Text.trim piece)).getD (Text.trim piece, [])
  let name := Text.trim name
  if name.isEmpty then none
  else some (String.ofList name, String.ofList (Text.trim value))

/-- The pairs of a header text, in the order in which they stand. -/
def readList (s : String) : List (String × String) := (s.toList.splitOn ';').filterMap readPair?

/-- The cookies among some headers, whose names are in lower case. -/
def ofHeaders (headers : Fields) : Fields :=
  match headers.get? "cookie" with
  | some s => Fields.ofList (readList s)
  | none => Fields.empty

end RouteServer.Cookie
