import RouteServer.Text.Numeral

/-
  **Scalars** — the single values of a settings file, and what they can be read as.

  A scalar keeps the text, the way it was written and its tag.  Any scalar is a text as it stands.
  Only a plain one can be a number or null, unless a tag says that it is one.
-/

namespace RouteServer.Yaml

/-- How a scalar is written. -/
inductive Style where
  | plain
  | quoted
  /-- behind a bar -/
  | literal
  /-- behind an angle bracket -/
  | folded
  deriving DecidableEq, Repr

/-- A single value. -/
structure Scalar where
  text : List Char
  style : Style
  tag : Option String
  deriving DecidableEq, Repr

namespace Scalar

def missing : Scalar := ⟨[], .plain, none⟩

def nullTag : String := "tag:yaml.org,2002:null"

def intTag : String := "tag:yaml.org,2002:int"

def isNullText (s : List Char) : Bool :=
  s == "~".toList || s == "null".toList || s == "Null".toList || s == "NULL".toList

def string (s : Scalar) : String := String.ofList s.text

/-- Reads a text that may be null: refused only when the null tag is on something else. -/
def optionalString? (s : Scalar) : Option (Option String) :=
  if s.style ≠ .plain then some (some s.string)
  else if s.tag = some nullTag then if isNullText s.text then some none else none
  else if s.tag.isSome then some (some s.string)
  else if s.text.isEmpty || isNullText s.text then some none
  else some (some s.string)

def based? (base : Nat) (mark : Char) (bits : Nat) : List Char → Option Nat
  | '0' :: m :: r =>
    if m = mark then (Text.Numeral.value? base r).filter (· < Nat.pow 2 bits) else none
  | _ => none

/-- Reads a whole number of at most `bits` binary digits: hexadecimal, octal or binary behind `0x`,
    `0o` or `0b`, or decimal without leading zeros; a plus sign may stand in front. -/
def numeral? (bits : Nat) (s : List Char) : Option Nat :=
  let digits := (match s with
    | '+' :: r => r
    | _ => s)
  match based? 16 'x' bits digits with
  | some n => some n
  | none =>
    match based? 8 'o' bits digits with
    | some n => some n
    | none =>
      match based? 2 'b' bits digits with
      | some n => some n
      | none =>
        if 1 < digits.length && digits.head? == some '0' then none
        else (Text.Numeral.value? 10 digits).filter (· < Nat.pow 2 bits)

/-- Reads a whole number of at most `bits` binary digits. -/
def nat? (bits : Nat) (s : Scalar) : Option Nat :=
  if s.style = .plain ∨ (s.style = .literal ∧ s.tag = some intTag) then numeral? bits s.text
  else none

end Scalar

end RouteServer.Yaml
