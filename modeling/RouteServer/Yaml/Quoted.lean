import RouteServer.Text.Numeral
import RouteServer.Yaml.Source

/-
  **Quoted scalars** — values between single or double quotes.

  Between single quotes a quote is written twice and nothing else is special.  Between double quotes
  a backslash begins an escape, and one at the end of a line joins the lines.  Line ends are folded
  in both.
-/

namespace RouteServer.Yaml

/-- The character that a letter behind a backslash stands for. -/
def escapeOf? (c : Char) : Option Char :=
  match c with
  | '0' => some '\x00'
  | 'a' => some '\x07'
  | 'b' => some '\x08'
  | 't' => some '\t'
  | '\t' => some '\t'
  | 'n' => some '\n'
  | 'v' => some '\x0b'
  | 'f' => some '\x0c'
  | 'r' => some '\r'
  | 'e' => some '\x1b'
  | ' ' => some ' '
  | '"' => some '"'
  | '/' => some '/'
  | '\\' => some '\\'
  | 'N' => some (Char.ofNat 0x85)
  | '_' => some (Char.ofNat 0xA0)
  | 'L' => some (Char.ofNat 0x2028)
  | 'P' => some (Char.ofNat 0x2029)
  | _ => none

/-- How many hexadecimal digits follow a letter behind a backslash. -/
def escapeDigits? (c : Char) : Option Nat :=
  if c = 'x' then some 2 else if c = 'u' then some 4 else if c = 'U' then some 8 else none

/-- What follows a backslash. -/
def escape? : Source → Option (Char × Source)
  | [] => none
  | (c, _) :: r =>
    match escapeDigits? c with
    | none => (escapeOf? c).map (·, r)
    | some k =>
      let digits := (r.take k).map (·.1)
      if digits.length < k then none
      else match Text.Numeral.value? 16 digits with
        | none => none
        | some n => if n.isValidChar then some (Char.ofNat n, r.drop k) else none

/-- The text up to the closing quote, and what follows it.

    `breaks` is what has been read of the line ends before this place, or nothing in the middle of a
    line, and `spaces` are the spaces before this place.  The number bounds the steps. -/
def quotedRest? (double : Bool) :
    Nat → (spaces : List Char) → (breaks : Option (List Char)) → Source →
    Option (List Char × Source)
  | 0, _, _, _ => none
  | _ + 1, _, _, [] => none
  | n + 1, spaces, breaks, (c, k) :: r =>
    if isBreak c then quotedRest? double n [] (some (breaks.getD [] ++ [c])) r
    else if isSpace c then
      quotedRest? double n (if breaks.isSome then [] else spaces ++ [c]) breaks r
    else if Source.atMarker ((c, k) :: r) then none
    else
      let before := (breaks.map foldBreaks).getD spaces
      let rest :=
        if double then
          if c = '"' then some ([], r)
          else if c = '\\' then
            match r with
            | [] => none
            | (d, _) :: after =>
              if isBreak d then joined n after
              else match escape? r with
                | none => none
                | some (e, r) => (quotedRest? double n [] none r).map fun h => (e :: h.1, h.2)
          else (quotedRest? double n [] none r).map fun h => (c :: h.1, h.2)
        else if c = '\'' then
          match r with
          | ('\'', _) :: r => (quotedRest? double n [] none r).map fun h => ('\'' :: h.1, h.2)
          | _ => some ([], r)
        else (quotedRest? double n [] none r).map fun h => (c :: h.1, h.2)
      rest.map fun h => (before ++ h.1, h.2)
where
  /-- Goes on behind a line end that was escaped. -/
  joined (n : Nat) (r : Source) : Option (List Char × Source) :=
    let lines := r.takeWhile fun p => isSpace p.1 || isBreak p.1
    (quotedRest? double n [] none (r.drop lines.length)).map fun h =>
      ((lines.map (·.1)).filter isBreak ++ h.1, h.2)

/-- A quoted scalar, from behind its opening quote. -/
def quoted? (double : Bool) (s : Source) : Option (List Char × Source) :=
  quotedRest? double (s.length + 1) [] none s

end RouteServer.Yaml
