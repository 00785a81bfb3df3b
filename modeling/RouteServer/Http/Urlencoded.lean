import RouteServer.Http.Fields
import RouteServer.Text.Numeral
import RouteServer.Text.Split
import RouteServer.Text.Utf8

/-
  **Urlencoded fields** — query strings and the bodies of simple forms.

  Fields stand between `&` signs and are cut at their first `=`; a field without one has an empty
  value, and an empty piece is no field.  In names and values a plus sign is a space, `%` with two
  hexadecimal digits is a byte and any other `%` is text; the bytes are then read as UTF-8, with
  replacement characters where they are none.  `encode` is the way back.
-/

namespace RouteServer.Urlencoded

def hexValue? (b : UInt8) : Option Nat := Text.Numeral.digit? 16 (Char.ofNat b.toNat)

def percentDecode : List UInt8 → List UInt8
  | 0x25 :: a :: b :: r =>
    match hexValue? a, hexValue? b with
    | some x, some y => UInt8.ofNat (x * 16 + y) :: percentDecode r
    | _, _ => 0x25 :: percentDecode (a :: b :: r)
  | b :: r => b :: percentDecode r
  | [] => []

def decodeText (s : List UInt8) : String :=
  Text.Utf8.decodeLossyString (percentDecode (s.map fun b => if b = 0x2B then 0x20 else b))

def decodePiece (s : List UInt8) : String × String :=
  match Text.splitFirst 0x3D s with
  | some (name, value) => (decodeText name, decodeText value)
  | none => (decodeText s, decodeText [])

/-- The fields in the order in which they stand. -/
def decodeList (s : List UInt8) : List (String × String) :=
  ((s.splitOn 0x26).filter (!·.isEmpty)).map decodePiece

/-- The fields; of two with one name the later counts. -/
def decode (s : List UInt8) : Fields := Fields.ofList (decodeList s)

/-- The bytes that are written as they are. -/
def isPlain (b : UInt8) : Bool :=
  let c := Char.ofNat b.toNat
  c.isAlphanum || c == '*' || c == '-' || c == '.' || c == '_'

/-- The upper-case hexadecimal digit of a number below sixteen. -/
def hexDigit (n : Nat) : UInt8 := UInt8.ofNat (if n < 10 then 0x30 + n else 0x37 + n)

def encodeByte (b : UInt8) : List UInt8 :=
  if b = 0x20 then [0x2B]
  else if isPlain b then [b]
  else [0x25, hexDigit (b.toNat / 16), hexDigit (b.toNat % 16)]

def encodeText (s : String) : List UInt8 := (Text.Utf8.encodeString s).flatMap encodeByte

def encode (fields : List (String × String)) : List UInt8 :=
  [0x26].intercalate (fields.map fun f => encodeText f.1 ++ 0x3D :: encodeText f.2)

end RouteServer.Urlencoded
