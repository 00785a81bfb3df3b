import RouteServer.Text.Split
import RouteServer.Text.Utf8

/-
  **File trees** — the files that a server can read, as a value.

  A tree lists regular files by the names on the way to them from the root; a directory is there
  when a file is below it, and the current directory and those above it always are.  There are no
  links.  A path is followed name by name, from the root if it begins with a slash and else from the
  current directory: empty names and `.` stay, `..` goes up but not above the root, and each step
  needs a directory to stand in.
-/

namespace RouteServer

inductive FileError where
  | notFound
  | notADirectory
  | isADirectory
  | nameTooLong
  /-- a name holds the character NUL -/
  | nul
  deriving DecidableEq, Repr

def FileError.message : FileError → String
  | .notFound => "No such file or directory (os error 2)"
  | .notADirectory => "Not a directory (os error 20)"
  | .isADirectory => "Is a directory (os error 21)"
  | .nameTooLong => "File name too long (os error 36)"
  | .nul => "file name contained an unexpected NUL byte"

/-- Regular files, each with the names on the way to it from the root. -/
structure FileTree where
  files : List (List String × List UInt8)
  /-- the place of the current directory -/
  here : List String := []
  deriving Repr

namespace FileTree

/-- What a path leads to. -/
inductive Node where
  | file (bytes : List UInt8)
  | directory
  deriving DecidableEq, Repr

def names (path : String) : List String := (path.toList.splitOn '/').map String.ofList

/-- A path with one more name behind it. -/
def push (path name : String) : String :=
  if path = "" ∨ path.toList.getLast? = some '/' then path ++ name else path ++ "/" ++ name

/-- Where one name leads from a place. -/
def step (place : List String) (name : String) : List String :=
  if name = "" ∨ name = "." then place
  else if name = ".." then place.dropLast
  else place ++ [name]

/-- The place from which a path is followed, if the current directory is at `here`. -/
def startFrom (here : List String) (path : String) : List String :=
  if path.toList.head? = some '/' then [] else here

/-- The place of a directory that no path can name, since its name holds NUL. -/
def somewhere : List String := ["\x00"]

/-- The tree of some files, given by their paths from a directory of which only this is known. -/
def ofFiles (files : List (String × List UInt8)) : FileTree where
  files := files.map fun f => ((names f.1).foldl step (startFrom somewhere f.1), f.2)
  here := somewhere

def node? (t : FileTree) (place : List String) : Option Node :=
  match t.files.find? (·.1 = place) with
  | some f => some (.file f.2)
  | none =>
    if place.isPrefixOf t.here || t.files.any fun f => place.isPrefixOf f.1 then some .directory
    else none

/-- Follows names from a place. -/
def follow (t : FileTree) (place : List String) : List String → Except FileError Node
  | [] => (t.node? place).elim (.error .notFound) .ok
  | n :: r =>
    match t.node? place with
    | none => .error .notFound
    | some (.file _) => .error .notADirectory
    | some .directory =>
      if 255 < n.utf8ByteSize then .error .nameTooLong else t.follow (step place n) r

/-- The bytes of what was found, if it is a file. -/
def bytesOf : Except FileError Node → Except FileError (List UInt8)
  | .ok (.file bytes) => .ok bytes
  | .ok .directory => .error .isADirectory
  | .error e => .error e

def read (t : FileTree) (path : String) : Except FileError (List UInt8) :=
  if path.toList.contains '\x00' then .error .nul
  else if path.isEmpty then .error .notFound
  else if 4096 ≤ path.utf8ByteSize then .error .nameTooLong
  else bytesOf (t.follow (startFrom t.here path) (names path))

end FileTree

end RouteServer
