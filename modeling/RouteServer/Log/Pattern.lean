import RouteServer.Text.LowerCase
import RouteServer.Text.Numeral

/-
  **Value patterns** — the texts that may stand for the value of a field.

  A value is a number or a regular expression.  A directive whose value is neither is no directive,
  so it has to be known which texts are regular expressions, though nothing is ever matched against
  one here.  The text lies between braces, so it holds no closing brace, and every form that needs
  one is refused.
-/

namespace RouteServer.Log.Pattern

/-- What a part of an expression is. -/
inductive Part where
  /-- one character -/
  | letter (c : Char)
  /-- a set of characters -/
  | set
  /-- a condition on a place -/
  | place
  deriving DecidableEq, Repr

/-- The character of a code point given by hexadecimal digits. -/
def letterOf? (digits : List Char) : Option Part :=
  (Text.Numeral.value? 16 digits).bind fun n =>
    if n.isValidChar then some (.letter (Char.ofNat n)) else none

/-- What follows a backslash. -/
def escape? : List Char → Option (Part × List Char)
  | 'x' :: a :: b :: r => (letterOf? [a, b]).map (·, r)
  | 'u' :: a :: b :: c :: d :: r => (letterOf? [a, b, c, d]).map (·, r)
  | 'U' :: a :: b :: c :: d :: e :: f :: g :: h :: r =>
    (letterOf? [a, b, c, d, e, f, g, h]).map (·, r)
  | 'p' :: c :: r => if c ∈ "LMNPSZC".toList then some (.set, r) else none
  | 'P' :: c :: r => if c ∈ "LMNPSZC".toList then some (.set, r) else none
  | c :: r =>
    if c ∈ "dDsSwW".toList then some (.set, r)
    else if c ∈ "Az".toList then some (.place, r)
    else if c ∈ "aftnrv".toList then some (.letter (Char.ofNat (match c with
      | 'a' => 7
      | 'f' => 12
      | 't' => 9
      | 'n' => 10
      | 'r' => 13
      | _ => 11)), r)
    else if c.toNat < 0x80 ∧ !c.isAlphanum ∧ c ≠ '<' ∧ c ≠ '>' then some (.letter c, r)
    else none
  | [] => none

/-- A member of a set between brackets, or an end of a range of members. -/
def member? : List Char → Option (Part × List Char)
  | '\\' :: r => (escape? r).filter (·.1 ≠ .place)
  | c :: r => some (.letter c, r)
  | [] => none

/-- What stands between an opening bracket and the first member: a negation, and a closing bracket
    or dashes, which are members here. -/
def opening (s : List Char) : List Char :=
  let s := match s with
    | '^' :: r => r
    | _ => s
  match s with
  | ']' :: r => r
  | _ => s.dropWhile (· == '-')

/-- The members of a set up to the closing bracket, and what follows it.  The number bounds the
    steps. -/
def members? : Nat → List Char → Option (List Char)
  | 0, _ => none
  | _ + 1, [] => none
  | _ + 1, ']' :: r => some r
  | n + 1, '[' :: r => (members? n (opening r)).bind (members? n)
  | n + 1, '-' :: '-' :: r => members? n r
  | n + 1, s =>
    match member? s with
    | none => none
    | some (_, '-' :: ']' :: r) => some r
    | some (_, '-' :: '-' :: r) => members? n r
    | some (first, '-' :: r) =>
      match first, member? r with
      | .letter a, some (.letter b, r) => if a ≤ b then members? n r else none
      | _, _ => none
    | some (_, r) => members? n r

/-- What follows the opening parenthesis of a group, and whether the parenthesis is to be closed:
    switches alone are no group. -/
def group? : List Char → Option (Bool × List Char)
  | '?' :: r =>
    let name := fun (s : List Char) =>
      let n := s.takeWhile fun c => c.isAlphanum || c == '_'
      match s.drop n.length with
      | '>' :: r => if n.isEmpty || n.head?.any Char.isDigit then none else some (true, r)
      | _ => none
    match r with
    | 'P' :: '<' :: r => name r
    | '<' :: r => name r
    | _ =>
      let switches := r.takeWhile (· ∈ "imsUuxR-".toList)
      match r.drop switches.length with
      | ':' :: r => some (true, r)
      | ')' :: r => if switches.isEmpty then none else some (false, r)
      | _ => none
  | r => some (true, r)

/-- Whether the rest of an expression is well-formed.  `depth` groups are open, and `repeatable`
    says whether there is something in front that can be repeated.  The number bounds the steps. -/
def isWellFormed : Nat → (depth : Nat) → (repeatable : Bool) → List Char → Bool
  | 0, _, _, _ => false
  | _ + 1, depth, _, [] => depth == 0
  | n + 1, depth, repeatable, c :: r =>
    if c = '(' then
      match group? r with
      | some (true, r) => isWellFormed n (depth + 1) false r
      | some (false, r) => isWellFormed n depth false r
      | none => false
    else if c = ')' then depth != 0 && isWellFormed n (depth - 1) true r
    else if c = '|' then isWellFormed n depth false r
    else if c = '*' ∨ c = '+' ∨ c = '?' then repeatable && isWellFormed n depth true r
    else if c = '\x7b' then false
    else if c = '[' then (members? n (opening r)).any (isWellFormed n depth true)
    else if c = '\\' then (escape? r).any fun p => isWellFormed n depth true p.2
    else isWellFormed n depth true r

/-- Whether a text behind a plus sign is a number; with any other sign it is an expression too. -/
def isNumber (s : List Char) : Bool :=
  let whole := s.takeWhile Char.isDigit
  let r := s.drop whole.length
  let places := match r with
    | '.' :: r => r.takeWhile Char.isDigit
    | _ => []
  let r := match r with
    | '.' :: r => r.drop places.length
    | _ => r
  let exponent := match r with
    | [] => true
    | c :: r =>
      let r := match r with
        | '+' :: r => r
        | '-' :: r => r
        | _ => r
      (c == 'e' || c == 'E') && !r.isEmpty && r.all Char.isDigit
  (!(whole ++ places).isEmpty && exponent) ||
    ["inf", "infinity", "nan"].any fun w => Text.sameIgnoringCase w (String.ofList s)

/-- Whether a text can stand for a value. -/
def isValue (s : List Char) : Bool :=
  isWellFormed (s.length + 1) 0 false s ||
    match s with
    | '+' :: r => isNumber r
    | _ => false

end RouteServer.Log.Pattern
