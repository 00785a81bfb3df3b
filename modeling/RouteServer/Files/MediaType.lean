import RouteServer.Files.Tree
import RouteServer.Text.LowerCase

/-
  **Media types** — the content type of a file, chosen by the extension of its name.

  The extension is what stands behind the last dot of the last name in the path.  A name that has
  no dot, or only a leading one, has no extension.  The case of an extension does not matter.
-/

namespace RouteServer.MediaType

/-- The content type of every file that has no better one. -/
def other : String := "application/octet-stream"

/-- Extensions in lower case and their content types. -/
def table : List (String × String) := [
  ("html", "text/html; charset=utf-8"), ("htm", "text/html; charset=utf-8"),
  ("css", "text/css"), ("js", "application/javascript"), ("mjs", "application/javascript"),
  ("json", "application/json"), ("txt", "text/plain; charset=utf-8"), ("xml", "application/xml"),
  ("png", "image/png"), ("jpg", "image/jpeg"), ("jpeg", "image/jpeg"), ("gif", "image/gif"),
  ("svg", "image/svg+xml"), ("ico", "image/x-icon"), ("woff", "font/woff"),
  ("woff2", "font/woff2")]

/-- The last name of a path, unless the path ends by going up. -/
def fileName? (names : List String) : Option String :=
  match (names.filter fun n => n ≠ "" ∧ n ≠ ".").getLast? with
  | some ".." => none
  | n => n

def extension? (name : String) : Option String :=
  match Text.splitFirst '.' name.toList.reverse with
  | some (ext, stem) => if stem.isEmpty then none else some (String.ofList ext.reverse)
  | none => none

def ofExtension (ext : String) : String :=
  ((table.find? (·.1 = Text.asciiLowerString ext)).map (·.2)).getD other

/-- The content type of the file that some names lead to. -/
def ofNames (names : List String) : String :=
  ((fileName? names).bind extension?).elim other ofExtension

def ofPath (path : String) : String := ofNames (FileTree.names path)

end RouteServer.MediaType
