import RouteServer.Text.LowerCase
import RouteServer.Text.Numeral

/-
  **Log levels** — how much an event says, and how much a filter lets through.

  The levels go from errors, of which there should be few, to traces.  A limit lets through its own
  level and those before it; the limit `off` lets nothing through.
-/

namespace RouteServer.Log

inductive Level where
  | error
  | warn
  | info
  | debug
  | trace
  deriving DecidableEq, Repr

def Level.name : Level → String
  | .error => "ERROR"
  | .warn => "WARN"
  | .info => "INFO"
  | .debug => "DEBUG"
  | .trace => "TRACE"

/-- How verbose a level is, from 1. -/
def Level.rank : Level → Nat
  | .error => 1
  | .warn => 2
  | .info => 3
  | .debug => 4
  | .trace => 5

/-- What a filter lets through: the levels up to a rank, which is 0 for none. -/
structure Limit where
  rank : Nat
  deriving DecidableEq, Repr

namespace Limit

def off : Limit := ⟨0⟩

/-- A level and all less verbose ones pass. -/
def upTo (l : Level) : Limit := ⟨l.rank⟩

def lets (limit : Limit) (l : Level) : Bool := l.rank ≤ limit.rank

def names : List (String × Limit) :=
  [("off", off), ("error", upTo .error), ("warn", upTo .warn), ("info", upTo .info),
   ("debug", upTo .debug), ("trace", upTo .trace)]

/-- Reads a limit: a rank from 0 to 5, or a name in any case. -/
def ofText? (s : List Char) : Option Limit :=
  match (Text.Numeral.unsigned? 10 64 s).filter (· ≤ 5) with
  | some n => some ⟨n⟩
  | none =>
    (names.find? fun e => Text.sameIgnoringCase e.1 (String.ofList s)).map (·.2)

end Limit

end RouteServer.Log
