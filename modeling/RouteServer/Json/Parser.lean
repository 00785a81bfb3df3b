import RouteServer.Json.Number
import RouteServer.Text.Utf8

/-
  **Reading JSON** — standard JSON text to values.

  The reader takes exactly the standard grammar: no comments, no leading zeros, no bare control
  characters in a text, no half of a surrogate pair.  Arrays and objects may be nested 127 deep.
-/

namespace RouteServer.Json

/-- Space between tokens. -/
def isSpace (c : Char) : Bool := c == ' ' || c == '\t' || c == '\n' || c == '\r'

def skipSpace (s : List Char) : List Char := s.dropWhile isSpace

def hex4? : List Char → Option (Nat × List Char)
  | a :: b :: c :: d :: r => (Text.Numeral.value? 16 [a, b, c, d]).map (·, r)
  | _ => none

/-- What follows `\u`: a character, or the two halves of a surrogate pair. -/
def unicodeEscape? (s : List Char) : Option (Char × List Char) :=
  match hex4? s with
  | none => none
  | some (n, r) =>
    if 0xD800 ≤ n ∧ n ≤ 0xDBFF then
      match r with
      | '\\' :: 'u' :: r =>
        match hex4? r with
        | some (m, r) =>
          if 0xDC00 ≤ m ∧ m ≤ 0xDFFF then
            some (Char.ofNat (0x10000 + (n - 0xD800) * 0x400 + (m - 0xDC00)), r)
          else none
        | none => none
      | _ => none
    else if 0xDC00 ≤ n ∧ n ≤ 0xDFFF then none
    else some (Char.ofNat n, r)

/-- What follows a backslash. -/
def escape? : List Char → Option (Char × List Char)
  | '"' :: r => some ('"', r)
  | '\\' :: r => some ('\\', r)
  | '/' :: r => some ('/', r)
  | 'b' :: r => some ('\x08', r)
  | 'f' :: r => some ('\x0c', r)
  | 'n' :: r => some ('\n', r)
  | 'r' :: r => some ('\r', r)
  | 't' :: r => some ('\t', r)
  | 'u' :: r => unicodeEscape? r
  | _ => none

/-- The text up to the closing quote, and what follows it.  The number bounds the characters that
    are read, and the length of the input is enough. -/
def quotedRest? : Nat → List Char → Option (List Char × List Char)
  | 0, _ => none
  | _ + 1, [] => none
  | n + 1, c :: r =>
    if c = '"' then some ([], r)
    else if c = '\\' then
      match escape? r with
      | some (e, r) => (quotedRest? n r).map fun h => (e :: h.1, h.2)
      | none => none
    else if c.toNat < 0x20 then none
    else (quotedRest? n r).map fun h => (c :: h.1, h.2)

mutual

/-- A value at the front of the text.  `fuel` bounds the steps and `depth` the nesting. -/
def value? (fuel depth : Nat) (s : List Char) : Option (Json × List Char) :=
  match fuel with
  | 0 => none
  | fuel + 1 =>
    match skipSpace s with
    | 'n' :: 'u' :: 'l' :: 'l' :: r => some (.null, r)
    | 't' :: 'r' :: 'u' :: 'e' :: r => some (.bool true, r)
    | 'f' :: 'a' :: 'l' :: 's' :: 'e' :: r => some (.bool false, r)
    | '"' :: r => (quotedRest? (r.length + 1) r).map fun h => (.str (String.ofList h.1), h.2)
    | '[' :: r =>
      if depth = 0 then none
      else match skipSpace r with
        | ']' :: r => some (.arr [], r)
        | r => (items? fuel (depth - 1) r).map fun h => (.arr h.1, h.2)
    | '{' :: r =>
      if depth = 0 then none
      else match skipSpace r with
        | '}' :: r => some (.obj [], r)
        | r => (fields? fuel (depth - 1) r).map fun h => (object h.1, h.2)
    | r => number? r

/-- The items of an array up to its closing bracket; there is at least one. -/
def items? (fuel depth : Nat) (s : List Char) : Option (List Json × List Char) :=
  match fuel with
  | 0 => none
  | fuel + 1 =>
    match value? fuel depth s with
    | none => none
    | some (v, r) =>
      match skipSpace r with
      | ']' :: r => some ([v], r)
      | ',' :: r => (items? fuel depth r).map fun h => (v :: h.1, h.2)
      | _ => none

/-- The fields of an object up to its closing brace; there is at least one. -/
def fields? (fuel depth : Nat) (s : List Char) : Option (List (String × Json) × List Char) :=
  match fuel with
  | 0 => none
  | fuel + 1 =>
    match skipSpace s with
    | '"' :: r =>
      match quotedRest? (r.length + 1) r with
      | none => none
      | some (k, r) =>
        match skipSpace r with
        | ':' :: r =>
          match value? fuel depth r with
          | none => none
          | some (v, r) =>
            match skipSpace r with
            | '}' :: r => some ([(String.ofList k, v)], r)
            | ',' :: r => (fields? fuel depth r).map fun h => ((String.ofList k, v) :: h.1, h.2)
            | _ => none
        | _ => none
    | _ => none

end

/-- How deep arrays and objects may be nested. -/
def maxDepth : Nat := 127

/-- Reads a text that is one value and space around it, nested at most `depth` deep. -/
def parseTo? (depth : Nat) (s : List Char) : Option Json :=
  match value? (2 * s.length + 2) depth s with
  | some (v, r) => if (skipSpace r).isEmpty then some v else none
  | none => none

/-- Reads a text that is one value and space around it. -/
def parse? (s : List Char) : Option Json := parseTo? maxDepth s

/-- Reads bytes; they have to be UTF-8. -/
def parseBytes? (bytes : List UInt8) : Option Json := (Text.Utf8.decode? bytes).bind parse?

end RouteServer.Json
