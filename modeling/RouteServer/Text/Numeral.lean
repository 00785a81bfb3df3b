/-
  **Numerals** — whole numbers written in decimal or hexadecimal digits.

  A numeral is one or more ASCII digits; leading zeros are allowed and the value is exact, however
  long the text.  The bounded readers add an optional sign and refuse what does not fit, so a port,
  a stack size or a path value never wraps around.
-/

namespace RouteServer.Text.Numeral

/-- The value of a digit in `base`, for bases up to sixteen and either case. -/
def digit? (base : Nat) (c : Char) : Option Nat :=
  let n := c.toNat
  let value :=
    if '0'.toNat ≤ n ∧ n ≤ '9'.toNat then n - '0'.toNat
    else if 'a'.toNat ≤ n ∧ n ≤ 'f'.toNat then n - 'a'.toNat + 10
    else if 'A'.toNat ≤ n ∧ n ≤ 'F'.toNat then n - 'A'.toNat + 10
    else base
  if value < base then some value else none

/-- Reads further digits onto a value. -/
def extend? (base : Nat) : Nat → List Char → Option Nat
  | n, [] => some n
  | n, c :: r =>
    match digit? base c with
    | some d => extend? base (n * base + d) r
    | none => none

def value? (base : Nat) (s : List Char) : Option Nat :=
  if s.isEmpty then none else extend? base 0 s

/-- A numeral with an optional plus sign, and a value of at most `bits` binary digits. -/
def unsigned? (base bits : Nat) (s : List Char) : Option Nat :=
  let digits := match s with
    | '+' :: r => r
    | _ => s
  match value? base digits with
  | some n => if n < Nat.pow 2 bits then some n else none
  | none => none

/-- A decimal numeral with an optional sign, and a value from -2^63 to 2^63 - 1. -/
def signed64? (s : List Char) : Option Int :=
  let read : Option Int := match s with
    | '-' :: r => (value? 10 r).map fun n => -(n : Int)
    | '+' :: r => (value? 10 r).map fun n => (n : Int)
    | _ => (value? 10 s).map fun n => (n : Int)
  match read with
  | some n => if -0x8000000000000000 ≤ n ∧ n < 0x8000000000000000 then some n else none
  | none => none

def ofNat (n : Nat) : List Char := Nat.toDigits 10 n

end RouteServer.Text.Numeral
