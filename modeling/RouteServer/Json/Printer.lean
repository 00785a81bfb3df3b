import RouteServer.Json.Value
import RouteServer.Number.Shortest
import RouteServer.Text.Utf8

/-
  **Compact JSON text** — how values are written into responses.

  There is no space between tokens and the fields stand in the order of the object, which is sorted.
  Only the quote, the backslash and the control characters are escaped.  A double always shows that
  it is one: it has a point or an exponent.
-/

namespace RouteServer.Json

def hexDigit (n : Nat) : Char := Nat.digitChar n

def escapeChar (c : Char) : List Char :=
  if c = '"' then ['\\', '"']
  else if c = '\\' then ['\\', '\\']
  else if c = '\x08' then ['\\', 'b']
  else if c = '\x0c' then ['\\', 'f']
  else if c = '\n' then ['\\', 'n']
  else if c = '\r' then ['\\', 'r']
  else if c = '\t' then ['\\', 't']
  else if c.toNat < 0x20 then
    ['\\', 'u', '0', '0', hexDigit (c.toNat / 16), hexDigit (c.toNat % 16)]
  else [c]

def quoted (s : List Char) : List Char := '"' :: s.flatMap escapeChar ++ ['"']

/-- A double: positional for decimal exponents from -5 to 15, scientific beyond. -/
def realText (x : Binary64) : List Char :=
  let sign := if x.negative then ['-'] else []
  let d := x.shortest .even
  if x.isZero || (-5 ≤ d.magnitude && d.magnitude ≤ 15) then sign ++ d.positional
  else sign ++ d.scientific ['+']

def intText (n : Int) : List Char :=
  if n < 0 then '-' :: Text.Numeral.ofNat n.natAbs else Text.Numeral.ofNat n.natAbs

mutual

def print : Json → List Char
  | .null => "null".toList
  | .bool true => "true".toList
  | .bool false => "false".toList
  | .int n => intText n
  | .real x => realText x
  | .str s => quoted s.toList
  | .arr items => '[' :: (printItems items ++ [']'])
  | .obj fields => '{' :: (printFields fields ++ ['}'])

/-- The items of an array, with commas between them. -/
def printItems : List Json → List Char
  | [] => []
  | [v] => print v
  | v :: w :: r => print v ++ ',' :: printItems (w :: r)

/-- The fields of an object, with commas between them. -/
def printFields : List (String × Json) → List Char
  | [] => []
  | [(k, v)] => quoted k.toList ++ ':' :: print v
  | (k, v) :: f :: r => quoted k.toList ++ ':' :: (print v ++ ',' :: printFields (f :: r))

end

def toText (v : Json) : String := String.ofList v.print

def toBytes (v : Json) : List UInt8 := Text.Utf8.encode v.print

end RouteServer.Json
