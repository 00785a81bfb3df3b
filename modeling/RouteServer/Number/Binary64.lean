/-
  **Binary64** — the numbers of the IEEE 754 double format, as exact values.

  A number is a sign, a mantissa below 2^53 and an exponent from -1074 to 971, and stands for
  `± mantissa · 2^exponent`.  The mantissa is at least 2^52 unless the exponent is the least one,
  so equal fields mean equal numbers (the two zeros stay apart).  All arithmetic is on `Nat`, so
  rounding is a definition and not a primitive: `ofRatio?` takes the nearest number, a tie going to
  the even mantissa, and gives nothing where the nearest number would be infinite.  Products and
  quotients are the exact ones, rounded once.
-/

namespace RouteServer

/-- A finite number of the double format. -/
structure Binary64 where
  negative : Bool
  mantissa : Nat
  exponent : Int
  deriving DecidableEq, Repr

namespace Binary64

/-- `n / d` rounded to a whole number, a half going to the even neighbour. -/
def roundHalfEven (n d : Nat) : Nat :=
  let q := n / d
  let twice := 2 * (n % d)
  if twice < d then q
  else if d < twice then q + 1
  else if q % 2 = 0 then q else q + 1

/-- What mantissas are below: 2^53. -/
def mantissaBound : Nat := 0x20000000000000

/-- The least mantissa of a number that is not subnormal: 2^52. -/
def leastNormal : Nat := 0x10000000000000

def zero (negative : Bool) : Binary64 := ⟨negative, 0, -1074⟩

/-- `n / (d · 2^e)` rounded to a whole number. -/
def scaled (n d : Nat) (e : Int) : Nat :=
  if 0 ≤ e then roundHalfEven n (d <<< e.toNat) else roundHalfEven (n <<< (-e).toNat) d

/-- The exponent that leaves 53 binary digits of `n / d` before the point, or the least one. -/
def exponentFor (n d : Nat) : Int :=
  let e : Int := (n.log2 : Int) - d.log2 - 53
  let fits : Bool :=
    if 0 ≤ e then n < (d <<< e.toNat) * mantissaBound else n <<< (-e).toNat < d * mantissaBound
  max (if fits then e else e + 1) (-1074)

/-- The number nearest to `± n / d`, for a positive `d`. -/
def ofRatio? (negative : Bool) (n d : Nat) : Option Binary64 :=
  if n = 0 then some (zero negative)
  else
    let e := exponentFor n d
    let m := scaled n d e
    let x : Binary64 :=
      if m = mantissaBound then ⟨negative, leastNormal, e + 1⟩ else ⟨negative, m, e⟩
    if x.exponent ≤ 971 then some x else none

/-- The number nearest to `± (n / d) · 2^e`, for a positive `d`. -/
def ofScaled? (negative : Bool) (n d : Nat) (e : Int) : Option Binary64 :=
  if 0 ≤ e then ofRatio? negative (n <<< e.toNat) d
  else ofRatio? negative n (d <<< (-e).toNat)

def isZero (x : Binary64) : Bool := x.mantissa == 0

/-- The product, rounded to the nearest number. -/
def mul? (x y : Binary64) : Option Binary64 :=
  ofScaled? (x.negative != y.negative) (x.mantissa * y.mantissa) 1 (x.exponent + y.exponent)

/-- The quotient, rounded to the nearest number; there is none by zero. -/
def div? (x y : Binary64) : Option Binary64 :=
  if y.isZero then none
  else ofScaled? (x.negative != y.negative) x.mantissa y.mantissa (x.exponent - y.exponent)

def neg (x : Binary64) : Binary64 := { x with negative := !x.negative }

/-- The whole number that a number is, if it is one. -/
def toInt? (x : Binary64) : Option Int :=
  let signed := fun (n : Nat) => if x.negative then -(n : Int) else (n : Int)
  if 0 ≤ x.exponent then some (signed (x.mantissa <<< x.exponent.toNat))
  else
    let unit := 1 <<< (-x.exponent).toNat
    if x.mantissa % unit = 0 then some (signed (x.mantissa / unit)) else none

end Binary64

end RouteServer
