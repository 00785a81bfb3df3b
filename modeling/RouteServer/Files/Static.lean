import RouteServer.Files.MediaType

/-
  **Static files** — serving files below a base directory.

  `below?` is the only way from a request path, or from the name of a template, to a file.  It
  refuses every path with a name `..` in it and drops empty names and `.`, so what is left leads
  down from the base and nowhere else.  Absolute paths do not exist here: leading slashes are empty
  names.
-/

namespace RouteServer

/-- The path below `base` that a path asks for; nothing when it would go up. -/
def FileTree.below? (base path : String) : Option String :=
  let ns := FileTree.names path
  if ".." ∈ ns then none
  else some ((ns.filter fun n => n ≠ "" ∧ n ≠ ".").foldl FileTree.push base)

namespace StaticFiles

inductive StaticError where
  /-- the path would go up -/
  | invalidPath
  /-- there is no regular file at the path -/
  | noFile
  deriving DecidableEq, Repr

def StaticError.message : StaticError → String
  | .invalidPath => "invalid path"
  | .noFile => "file not found"

/-- The path that is looked up for a request path.  A path of slashes only, or of nothing, asks for
    `index.html`. -/
def asked (path : String) : String :=
  let rest := path.toList.dropWhile (· == '/')
  if rest.isEmpty then "index.html" else String.ofList rest

/-- The file behind a request path and its content type. -/
def load (t : FileTree) (base path : String) : Except StaticError (List UInt8 × String) :=
  match FileTree.below? base (asked path) with
  | none => .error .invalidPath
  | some file =>
    match (t.read file).toOption with
    | some bytes => .ok (bytes, MediaType.ofPath file)
    | none => .error .noFile

end StaticFiles

end RouteServer
