import RouteServer.Json.Value
import RouteServer.Text.Numeral

/-
  **JSON numbers** — from digits to values.

  A number that fits 64 bits, signed or unsigned, is kept as a whole number when it has neither
  fraction nor exponent; every other number becomes a double, and one that is too big for that is
  an error.  Minus zero is a double, since whole numbers have only one zero.

  A double is found in two steps, and each of them rounds: the leading digits, as many as fit 64
  bits, become the nearest double, and that is multiplied with a power of ten or divided by one.  So
  the result can be a neighbour of the double that is nearest to the text.
-/

namespace RouteServer.Json

def digits (s : List Char) : List Char × List Char :=
  (s.takeWhile Char.isDigit, s.dropWhile Char.isDigit)

/-- The digits of a whole part: a single zero, or digits that do not begin with one. -/
def wholePart? (s : List Char) : Option (List Char × List Char) :=
  match s with
  | '0' :: r => some (['0'], r)
  | _ => if (digits s).1.isEmpty then none else some (digits s)

/-- The digits after a point, none when there is no point. -/
def fraction? : List Char → Option (Option (List Char) × List Char)
  | '.' :: r => if (digits r).1.isEmpty then none else some (some (digits r).1, (digits r).2)
  | r => some (none, r)

/-- The value of an exponent, none when there is none. -/
def exponent? (s : List Char) : Option (Option Int × List Char) :=
  let signed := fun (sign : Int) (r : List Char) =>
    (Text.Numeral.value? 10 (digits r).1).map fun n => (some (sign * n), (digits r).2)
  match s with
  | c :: r =>
    if c = 'e' ∨ c = 'E' then
      match r with
      | '+' :: r => signed 1 r
      | '-' :: r => signed (-1) r
      | r => signed 1 r
    else some (none, s)
  | [] => some (none, [])

/-- What values of 64 bits are below: 2^64. -/
def wordBound : Nat := 0x10000000000000000

/-- Reads further digits onto a value as long as it fits 64 bits, and counts the digits that are
    left. -/
def leading : Nat → List Char → Nat × Nat
  | n, [] => (n, 0)
  | n, c :: r =>
    match Text.Numeral.digit? 10 c with
    | some d => if n * 10 + d < wordBound then leading (n * 10 + d) r else (n, r.length + 1)
    | none => (n, r.length + 1)

/-- The double nearest to `10^k`. -/
def tenTo? (k : Nat) : Option Binary64 := Binary64.ofRatio? false (Nat.pow 10 k) 1

/-- Divides by `10^k`; the greatest power that is divided by at once is `10^308`. -/
def divideByTens? (x : Binary64) (k : Nat) : Option Binary64 :=
  if k ≤ 308 then (tenTo? k).bind x.div?
  else if x.isZero then some x
  else ((tenTo? 308).bind x.div?).bind fun y => divideByTens? y (k - 308)
termination_by k

def multiplyByTens? (x : Binary64) (k : Nat) : Option Binary64 :=
  if x.isZero then some x else if 308 < k then none else (tenTo? k).bind x.mul?

/-- The double for `n · 10^e` and a sign. -/
def double? (negative : Bool) (n : Nat) (e : Int) : Option Binary64 :=
  let x := (Binary64.ofRatio? false n 1).bind fun x =>
    if 0 ≤ e then multiplyByTens? x e.toNat else divideByTens? x (-e).toNat
  x.map fun x => { x with negative }

/-- The value of a number without fraction and exponent. -/
def whole? (negative : Bool) (digits : List Char) : Option Json :=
  let (n, left) := leading 0 digits
  if left = 0 ∧ !negative then some (.int n)
  else if left = 0 ∧ 0 < n ∧ n ≤ 0x8000000000000000 then some (.int (-n))
  else (double? negative n left).map .real

/-- The value of a number with a fraction, which may be empty, and an exponent. -/
def real? (negative : Bool) (digits places : List Char) (exponent : Int) : Option Json :=
  let (n, left) := leading 0 digits
  let (n, unread) := leading n places
  (double? negative n (left - (places.length - unread : Nat) + exponent)).map .real

def number? (s : List Char) : Option (Json × List Char) :=
  let (negative, s) := match s with
    | '-' :: r => (true, r)
    | _ => (false, s)
  match wholePart? s with
  | none => none
  | some (whole, s) =>
    match fraction? s with
    | none => none
    | some (fraction, s) =>
      match exponent? s with
      | none => none
      | some (exponent, s) =>
        let value := match fraction, exponent with
          | none, none => whole? negative whole
          | _, _ => real? negative whole (fraction.getD []) (exponent.getD 0)
        value.map (·, s)

end RouteServer.Json
