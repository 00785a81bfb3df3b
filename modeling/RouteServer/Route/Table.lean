import RouteServer.Http.Method
import RouteServer.Route.Pattern

/-
  **Route tables** — which routes are registered for which method.

  A table is a map from methods to their entries, and beside it the list of those methods in the
  order in which they were first registered.  A registration writes to both.  Lookups and counts
  read the map, whose keys stand in no order that matters; what is shown in order goes by the list.
  Nothing is ever removed or replaced, so the table is a view of the log of its registrations.
-/

namespace RouteServer.Route

/-- A compiled route and what it leads to. -/
structure Entry (H : Type) where
  pattern : Pattern
  handler : H
  /-- the number of values that the handler receives -/
  paramCount : Nat

def Entry.ofPattern (p : Pattern) (h : H) : Entry H := ⟨p, h, p.paramCount⟩

/-- The entries of each method, and the methods that have entries. -/
structure Table (H : Type) where
  /-- the map from a method to its entries, in order of registration -/
  routes : List (Method × List (Entry H))
  /-- the methods with entries, in order of their first registration -/
  methods : List Method

namespace Table

variable {H : Type}

def empty : Table H := ⟨[], []⟩

/-- The map with an entry added behind those of a method, which may be a new key. -/
def addEntry (m : Method) (e : Entry H) :
    List (Method × List (Entry H)) → List (Method × List (Entry H))
  | [] => [(m, [e])]
  | (n, es) :: r => if n = m then (n, es ++ [e]) :: r else (n, es) :: addEntry m e r

/-- Adds an entry behind all others of its method. -/
def push (t : Table H) (m : Method) (e : Entry H) : Table H where
  routes := addEntry m e t.routes
  methods := if m ∈ t.routes.map (·.1) then t.methods else t.methods ++ [m]

/-- Registers a handler for a template that may be missing. -/
def registerDeclared (t : Table H) (m : Method) (template : Option String) (h : H) :
    Except RouteError (Table H) :=
  (compileDeclared template).map fun p => t.push m (.ofPattern p h)

def register (t : Table H) (m : Method) (template : String) (h : H) :
    Except RouteError (Table H) :=
  t.registerDeclared m (some template) h

theorem register_of_compile {template : String} {p : Pattern} (hp : compile template = .ok p)
    (t : Table H) (m : Method) (h : H) :
    t.register m template h = .ok (t.push m (.ofPattern p h)) := by
  rw [register, registerDeclared, ← compile, hp]
  rfl

/-- Registers one handler under several methods; a refused template registers it under none. -/
def registerMany (t : Table H) (ms : List Method) (template : String) (h : H) :
    Except RouteError (Table H) :=
  (compile template).map fun p => ms.foldl (fun t m => t.push m (.ofPattern p h)) t

/-- The entries of a method, in order of registration. -/
def entriesFor (t : Table H) (m : Method) : List (Entry H) :=
  ((t.routes.find? (·.1 = m)).map (·.2)).getD []

def size (t : Table H) : Nat := t.routes.foldr (fun g n => g.2.length + n) 0

def isEmpty (t : Table H) : Bool := t.routes.isEmpty

/-- All entries with their methods, method by method. -/
def toList (t : Table H) : List (Method × Entry H) :=
  t.methods.flatMap fun m => (t.entriesFor m).map (m, ·)

theorem entriesFor_push (t : Table H) (m n : Method) (e : Entry H) :
    (t.push m e).entriesFor n = if n = m then t.entriesFor n ++ [e] else t.entriesFor n := by
  simp only [entriesFor, push]
  induction t.routes with
  | nil =>
    by_cases hn : n = m
    · simp [addEntry, hn]
    · simp [addEntry, hn, Ne.symm hn]
  | cons g r ih =>
    obtain ⟨k, es⟩ := g
    rw [addEntry]
    by_cases hk : k = m
    · subst hk
      by_cases hn : k = n
      · simp [hn]
      · simp [hn, Ne.symm hn]
    · by_cases hn : k = n
      · subst hn
        simp [hk]
      · simpa [hk, hn] using ih

theorem mem_keys_push (t : Table H) (m n : Method) (e : Entry H) :
    n ∈ (t.push m e).routes.map (·.1) ↔ n ∈ t.routes.map (·.1) ∨ n = m := by
  simp only [push]
  induction t.routes with
  | nil => simp [addEntry]
  | cons g r ih =>
    obtain ⟨k, es⟩ := g
    rw [addEntry]
    by_cases hk : k = m
    · subst hk
      rw [if_pos rfl, List.map_cons, List.map_cons, List.mem_cons]
      constructor
      · exact Or.inl
      · rintro (h | h)
        · exact h
        · exact Or.inl h
    · rw [if_neg hk, List.map_cons, List.mem_cons, ih, List.map_cons, List.mem_cons, or_assoc]

theorem size_push (t : Table H) (m : Method) (e : Entry H) : (t.push m e).size = t.size + 1 := by
  simp only [size, push]
  induction t.routes with
  | nil => rfl
  | cons g r ih =>
    obtain ⟨k, es⟩ := g
    rw [addEntry]
    by_cases hk : k = m
    · simp only [if_pos hk, List.foldr_cons, List.length_append, List.length_singleton]
      omega
    · rw [if_neg hk, List.foldr_cons, List.foldr_cons, ih, Nat.add_assoc]

theorem isEmpty_iff (t : Table H) : t.isEmpty = true ↔ t.routes.map (·.1) = [] := by
  rw [isEmpty, List.isEmpty_iff, List.map_eq_nil_iff]

end Table

end RouteServer.Route
