import RouteServer.Route.Template
import RouteServer.Text.Numeral

/-
  **Path parameters** — the texts that a path gave to the placeholders of its route, and typed
  access to them.

  Values and declared placeholders stand in the same order.  A request that was routed has as many
  of one as of the other, but the accessors do not rely on it: a name counts where both are there.
-/

namespace RouteServer

inductive ParamError where
  /-- there is no value at this position -/
  | missing (index : Nat)
  /-- the value is empty, is no decimal integer, or does not fit 64 bits -/
  | notAnInteger (name value : String)
  deriving DecidableEq, Repr

def ParamError.message : ParamError → String
  | .missing index => "no path parameter at position " ++ toString index
  | .notAnInteger name value =>
    "path parameter '" ++ name ++ "' is not an integer: '" ++ value ++ "'"

/-- The values of a path, and the placeholders they belong to. -/
structure PathParams where
  values : List String
  specs : List Route.Placeholder
  deriving DecidableEq, Repr

namespace PathParams

def empty : PathParams := ⟨[], []⟩

/-- The value of a name; of two placeholders with one name the later counts. -/
def get? (p : PathParams) (name : String) : Option String :=
  ((p.specs.zip p.values).reverse.find? fun e => e.1.name = name).map (·.2)

def text (p : PathParams) (i : Nat) : Except ParamError String :=
  match p.values[i]? with
  | some v => .ok v
  | none => .error (.missing i)

/-- The name of the placeholder at a position, empty where none is declared. -/
def nameAt (p : PathParams) (i : Nat) : String := ((p.specs[i]?).map (·.name)).getD ""

/-- The value at a position as an integer of 64 bits. -/
def int (p : PathParams) (i : Nat) : Except ParamError Int :=
  match p.text i with
  | .error e => .error e
  | .ok v =>
    match Text.Numeral.signed64? v.toList with
    | some n => .ok n
    | none => .error (.notAnInteger (p.nameAt i) v)

/-- Whether the placeholder at a position was declared as an integer. -/
def isInt (p : PathParams) (i : Nat) : Bool := (p.specs[i]?).any (·.kind == .int)

end PathParams

end RouteServer
