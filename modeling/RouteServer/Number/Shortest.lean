import RouteServer.Number.Binary64
import RouteServer.Text.Numeral

/-
  **Shortest decimals** — the fewest digits that read back as a given double.

  Around a double lies the interval of the reals that round to it, its ends included when the
  mantissa is even.  The shortest decimal is a point of the coarsest decimal grid that meets the
  interval; of two such points the nearer one is taken.  Which of two equally near ones is taken
  differs between formats.
  If a point of a grid lies in the interval, so does one of the two grid points next to the number
  itself, so only those two are tried.
-/

namespace RouteServer

/-- `digits · 10^exponent`. -/
structure Decimal where
  digits : Nat
  exponent : Int
  deriving DecidableEq, Repr

/-- Which of two equally near decimals is taken. -/
inductive Tie where
  /-- the one with the even last digit -/
  | even
  /-- the one that is further from zero -/
  | away
  deriving DecidableEq, Repr

namespace Binary64

/-- A positive double and the ends of its rounding interval, in units of 2^-1076. -/
structure Interval where
  low : Nat
  value : Nat
  high : Nat
  closed : Bool

/-- The reals that round to a number.  Below a power of two the numbers lie twice as dense. -/
def interval (x : Binary64) : Interval :=
  let unit := 1 <<< (x.exponent + 1074).toNat
  let value := 4 * x.mantissa * unit
  let below := if x.mantissa = leastNormal ∧ x.exponent ≠ -1074 then unit else 2 * unit
  ⟨value - below, value, value + 2 * unit, x.mantissa % 2 = 0⟩

/-- Whether a real, in the units of the interval, rounds to the number.  The interval is stretched
    by `up` and the real by `down`, which keeps both whole. -/
def Interval.holds (i : Interval) (up real : Nat) : Bool :=
  if i.closed then i.low * up ≤ real && real ≤ i.high * up
  else i.low * up < real && real < i.high * up

/-- The point of the grid of step `10^p` that reads back as the number, if there is one. -/
def Interval.onGrid? (tie : Tie) (i : Interval) (p : Int) : Option Nat :=
  let up := Nat.pow 10 (-p).toNat
  let step := Nat.pow 10 p.toNat <<< 1076
  let a := i.value * up / step
  match i.holds up (a * step), i.holds up ((a + 1) * step) with
  | true, true =>
    let before := i.value * up - a * step
    let after := (a + 1) * step - i.value * up
    if before < after then some a
    else if after < before then some (a + 1)
    else if tie = .even ∧ a % 2 = 0 then some a else some (a + 1)
  | true, false => some a
  | false, true => some (a + 1)
  | false, false => none

/-- The first hit on the grids of step `10^p`, `10^(p-1)`, and so on. -/
def Interval.search (tie : Tie) (i : Interval) : Nat → Int → Decimal
  | 0, p => ⟨0, p⟩
  | tries + 1, p =>
    match i.onGrid? tie p with
    | some n => ⟨n, p⟩
    | none => i.search tie tries (p - 1)

/-- The shortest decimal that reads back as a number, its sign aside.  The search starts above the
    number and ends at the latest on the grid of its seventeenth digit. -/
def shortest (tie : Tie) (x : Binary64) : Decimal :=
  if x.mantissa = 0 then ⟨0, 0⟩
  else x.interval.search tie 40 ((x.exponent + 54) * 30103 / 100000 + 2)

end Binary64

/-- A decimal written without an exponent, with a point and at least one digit on either side. -/
def Decimal.positional (d : Decimal) : List Char :=
  let digits := Text.Numeral.ofNat d.digits
  let point : Int := digits.length + d.exponent
  if 0 ≤ d.exponent then digits ++ List.replicate d.exponent.toNat '0' ++ ['.', '0']
  else if 0 < point then digits.take point.toNat ++ '.' :: digits.drop point.toNat
  else '0' :: '.' :: List.replicate (-point).toNat '0' ++ digits

/-- A decimal with one digit before the point and an exponent: `1.5e-7`.  What is written before an
    exponent that is not negative is up to the format. -/
def Decimal.scientific (plus : List Char) (d : Decimal) : List Char :=
  let digits := Text.Numeral.ofNat d.digits
  let e : Int := digits.length + d.exponent - 1
  let sign := if 0 ≤ e then plus else ['-']
  let fraction := if digits.length ≤ 1 then [] else '.' :: digits.drop 1
  digits.take 1 ++ fraction ++ 'e' :: sign ++ Text.Numeral.ofNat e.natAbs

/-- The decimal exponent of the first digit. -/
def Decimal.magnitude (d : Decimal) : Int :=
  (Text.Numeral.ofNat d.digits).length + d.exponent - 1

end RouteServer
