import RouteServer.Json.Value
import RouteServer.Text.LowerCase

/-
  **Fields** — a finite map from names to texts: query parameters, headers, cookies, form fields.

  Every source of fields is a list in which a name may occur again, and the last occurrence counts.
  So `ofList` is the only way in, and `get?_insert` says what a write changes.
-/

namespace RouteServer

/-- A map from names to texts; no name occurs twice among the entries. -/
structure Fields where
  entries : List (String × String)
  deriving DecidableEq, Repr

namespace Fields

def empty : Fields := ⟨[]⟩

/-- The entries with a value written over the one of the same name, or behind all others. -/
def insertEntry (name value : String) : List (String × String) → List (String × String)
  | [] => [(name, value)]
  | (n, v) :: r =>
    if n = name then (name, value) :: r else (n, v) :: insertEntry name value r

def insert (f : Fields) (name value : String) : Fields := ⟨insertEntry name value f.entries⟩

/-- The map that gives each name the last of its values. -/
def ofList (pairs : List (String × String)) : Fields :=
  pairs.foldl (fun f p => f.insert p.1 p.2) empty

def lookup (name : String) : List (String × String) → Option String
  | [] => none
  | (n, v) :: r => if n = name then some v else lookup name r

def get? (f : Fields) (name : String) : Option String := lookup name f.entries

/-- The value of the first name that differs from the given one in case at most. -/
def getIgnoringCase? (f : Fields) (name : String) : Option String :=
  (f.entries.find? fun e => Text.sameIgnoringCase e.1 name).map (·.2)

def toJson (f : Fields) : Json := Json.object (f.entries.map fun e => (e.1, Json.str e.2))

theorem lookup_insertEntry (name value key : String) (es : List (String × String)) :
    lookup key (insertEntry name value es) = if name = key then some value else lookup key es := by
  induction es with
  | nil => simp [insertEntry, lookup]
  | cons e r ih =>
    obtain ⟨n, v⟩ := e
    simp only [insertEntry]
    split
    · rename_i h
      subst h
      simp only [lookup]
      split <;> rfl
    · rename_i h
      simp only [lookup, ih]
      split
      · rename_i hn
        subst hn
        simp [Ne.symm h]
      · rfl

/-- A write changes the value of its name and of no other. -/
theorem get?_insert (f : Fields) (name value key : String) :
    (f.insert name value).get? key = if name = key then some value else f.get? key :=
  lookup_insertEntry name value key f.entries

end Fields

end RouteServer
