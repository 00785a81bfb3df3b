import RouteServer.Text.Numeral

/-
  **Quoted texts in templates** — where they end and what their escapes stand for.

  A quoted text ends at the next quote of its kind that has no backslash in front.  An escape names
  a character by a letter, by two hexadecimal or up to three octal digits, or by the four
  hexadecimal digits of a unit of UTF-16; the two halves of a pair have to stand together.  A
  backslash in front of anything else stands for itself.
-/

namespace RouteServer.View.Quoted

/-- The characters up to the closing quote, escapes as they are written, and what follows it. -/
def cut? (quote : Char) : List Char → Option (List Char × List Char)
  | [] => none
  | ['\\'] => none
  | '\\' :: c :: r => (cut? quote r).map fun h => ('\\' :: c :: h.1, h.2)
  | c :: r => if c = quote then some ([], r) else (cut? quote r).map fun h => (c :: h.1, h.2)

/-- The character that a letter behind a backslash stands for. -/
def letter? (c : Char) : Option Char :=
  match c with
  | '"' => some '"'
  | '\\' => some '\\'
  | '/' => some '/'
  | '\'' => some '\''
  | 'b' => some '\x08'
  | 'f' => some '\x0c'
  | 'n' => some '\n'
  | 'r' => some '\r'
  | 't' => some '\t'
  | _ => none

/-- Whether a unit of UTF-16 is the first half of a pair. -/
def isHigh (n : Nat) : Bool := 0xD800 ≤ n && n ≤ 0xDBFF

/-- Whether a unit of UTF-16 is the second half of a pair. -/
def isLow (n : Nat) : Bool := 0xDC00 ≤ n && n ≤ 0xDFFF

def ofPair (high low : Nat) : Char :=
  Char.ofNat (0x10000 + (high - 0xD800) * 0x400 + (low - 0xDC00))

/-- The octal digits at the front, three at most. -/
def octal (s : List Char) : List Char :=
  (s.take 3).takeWhile fun c => (Text.Numeral.digit? 8 c).isSome

/-- The text that some characters stand for.  `half` is the first half of a pair that was read just
    before.  The number bounds the steps. -/
def decodeFrom? : Nat → (half : Option Nat) → List Char → Option (List Char)
  | 0, _, _ => none
  | _ + 1, half, [] => if half.isSome then none else some []
  | n + 1, half, '\\' :: 'u' :: a :: b :: c :: d :: r =>
    match Text.Numeral.unsigned? 16 16 [a, b, c, d], half with
    | none, _ => none
    | some unit, some high =>
      if isHigh high && isLow unit then (decodeFrom? n none r).map (ofPair high unit :: ·) else none
    | some unit, none =>
      if isHigh unit || isLow unit then decodeFrom? n (some unit) r
      else (decodeFrom? n none r).map (Char.ofNat unit :: ·)
  | _ + 1, some _, _ => none
  | n + 1, none, '\\' :: 'x' :: a :: b :: r =>
    match Text.Numeral.unsigned? 16 8 [a, b] with
    | none => none
    | some unit => (decodeFrom? n none r).map (Char.ofNat unit :: ·)
  | n + 1, none, '\\' :: c :: r =>
    match letter? c, Text.Numeral.value? 8 (octal (c :: r)) with
    | some e, _ => (decodeFrom? n none r).map (e :: ·)
    | none, some code =>
      (decodeFrom? n none ((c :: r).drop (octal (c :: r)).length)).map (Char.ofNat code :: ·)
    | none, none =>
      if c = 'u' ∨ c = 'x' then none
      else (decodeFrom? n none r).map fun s => '\\' :: c :: s
  | n + 1, none, c :: r => (decodeFrom? n none r).map (c :: ·)

def decode? (s : List Char) : Option (List Char) := decodeFrom? (s.length + 1) none s

end RouteServer.View.Quoted
