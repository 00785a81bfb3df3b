import RouteServer.Json.Printer
import RouteServer.Text.Visible

/-
  **The text of a value** — what a template writes for it.

  A text writes itself.  Lists and objects show their parts, with texts between quotes, so `"1"` and
  `1` look different inside a list and alike outside of one.
  Where a template is markup, the six characters that could open markup or end an attribute are
  written as references (`not_mem_escape`).
-/

namespace RouteServer.View

/-- A character of markup, or the reference that stands for it. -/
def escapeChar (c : Char) : List Char :=
  if c = '<' then "&lt;".toList
  else if c = '>' then "&gt;".toList
  else if c = '&' then "&amp;".toList
  else if c = '"' then "&quot;".toList
  else if c = '\'' then "&#x27;".toList
  else if c = '/' then "&#x2f;".toList
  else [c]

/-- A text with references for what could be markup. -/
def escape (s : List Char) : List Char := s.flatMap escapeChar

/-- A text with references holds none of the characters that they stand for, ampersands aside. -/
theorem not_mem_escape {c : Char} (h : c ∈ ['<', '>', '"', '\'', '/']) (s : List Char) :
    c ∉ escape s := by
  simp only [escape, List.mem_flatMap, not_exists, not_and]
  intro d _ hc
  simp only [List.mem_cons, List.not_mem_nil, or_false] at h
  unfold escapeChar at hc
  repeat' split at hc
  all_goals first
    | (revert hc; rcases h with rfl | rfl | rfl | rfl | rfl <;> decide)
    | (simp only [List.mem_singleton] at hc; subst hc
       rcases h with rfl | rfl | rfl | rfl | rfl <;> contradiction)

/-- A character inside a shown text. -/
def showChar (c : Char) : List Char :=
  if c = '"' then ['\\', '"']
  else if c = '\\' then ['\\', '\\']
  else if c = '\n' then ['\\', 'n']
  else if c = '\r' then ['\\', 'r']
  else if c = '\t' then ['\\', 't']
  else if c = '\x00' then ['\\', '0']
  else if Text.isVisible c then [c]
  else '\\' :: 'u' :: '\x7b' :: (Nat.toDigits 16 c.toNat ++ ['\x7d'])

def showText (s : List Char) : List Char := '"' :: s.flatMap showChar ++ ['"']

/-- The sign of a number, written only when it is a minus. -/
def signOf (x : Binary64) : List Char := if x.negative then ['-'] else []

/-- A number as it stands inside a list or an object: positional for decimal exponents from -4 to
    15, scientific beyond. -/
def showReal (x : Binary64) : List Char :=
  let d := x.shortest .away
  if x.isZero || (-4 ≤ d.magnitude && d.magnitude ≤ 15) then signOf x ++ d.positional
  else signOf x ++ d.scientific []

mutual

/-- A value as it stands inside a list or an object. -/
def showValue : Json → List Char
  | .null => "None".toList
  | .bool true => "True".toList
  | .bool false => "False".toList
  | .int n => Json.intText n
  | .real x => showReal x
  | .str s => showText s.toList
  | .arr items => '[' :: (showItems items ++ [']'])
  | .obj fields => '\x7b' :: (showFields fields ++ ['\x7d'])

def showItems : List Json → List Char
  | [] => []
  | [v] => showValue v
  | v :: w :: r => showValue v ++ ',' :: ' ' :: showItems (w :: r)

def showFields : List (String × Json) → List Char
  | [] => []
  | [(k, v)] => showText k.toList ++ ':' :: ' ' :: showValue v
  | (k, v) :: f :: r =>
    showText k.toList ++ ':' :: ' ' :: (showValue v ++ ',' :: ' ' :: showFields (f :: r))

end

/-- What a template writes for a value by itself.  A number by itself is always positional. -/
def textOf : Json → List Char
  | .str s => s.toList
  | .real x => signOf x ++ (x.shortest .away).positional
  | v => showValue v

end RouteServer.View
