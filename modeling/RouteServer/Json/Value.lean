import RouteServer.Number.Binary64

/-
  **JSON values** — request bodies, view contexts and the data of answers.

  Whole numbers and doubles are apart, because a number that was written without fraction and
  exponent keeps all its digits.  An object is a list of fields; `Json.object` is the way to build
  one, and keeps the fields sorted by key with one field per key, so equal objects are equal lists.
-/

namespace RouteServer

inductive Json where
  | null
  | bool (b : Bool)
  | int (n : Int)
  | real (x : Binary64)
  | str (s : String)
  | arr (items : List Json)
  | obj (fields : List (String × Json))
  deriving Repr

namespace Json

/-- Puts a field at its place in a sorted list, over an earlier field of the same key. -/
def insertField (key : String) (v : Json) : List (String × Json) → List (String × Json)
  | [] => [(key, v)]
  | (k, w) :: r =>
    if key = k then (key, v) :: r
    else if key < k then (key, v) :: (k, w) :: r
    else (k, w) :: insertField key v r

/-- The object with these fields; of two fields with one key the later counts. -/
def object (fields : List (String × Json)) : Json :=
  .obj (fields.foldl (fun acc f => insertField f.1 f.2 acc) [])

def field? (key : String) : Json → Option Json
  | .obj fields => (fields.find? (·.1 = key)).map (·.2)
  | _ => none

def item? (i : Nat) : Json → Option Json
  | .arr items => items[i]?
  | _ => none

end Json

end RouteServer
