import RouteServer.View.Token

/-
  **Expressions of templates** — what an output writes and what a tag looks at.

  An expression is a literal or a variable, perhaps with signs in front and attributes, items and
  filters behind it.  A sign belongs to the value itself, so what stands behind an item is looked up
  in the negated value, and filters come last.  Expressions may be nested only so deep, and
  statements take up some of that depth.
-/

namespace RouteServer.View

inductive Expr where
  | literal (v : Json)
  | variable (name : String)
  /-- `e.name` -/
  | attribute (e : Expr) (name : String)
  /-- `e[i]` -/
  | item (e i : Expr)
  /-- `e|name` -/
  | filtered (e : Expr) (name : String)
  /-- `-e` -/
  | negated (e : Expr)
  /-- `name()` -/
  | call (name : String)
  /-- the content of the block that the running one overrides -/
  | overridden
  deriving Repr

namespace Expr

/-- Words that stand for values, and that no loop may bind. -/
def constant? (name : String) : Option Json :=
  if name = "true" ∨ name = "True" then some (.bool true)
  else if name = "false" ∨ name = "False" then some (.bool false)
  else if name = "none" ∨ name = "None" then some .null
  else none

def ofWord (w : String) : Expr := (constant? w).elim (.variable w) .literal

def ofCall (w : String) : Expr := if w = "super" then .overridden else .call w

/-- Filters behind an expression.  The number bounds them. -/
def filters : Nat → Expr → List Token → Except TemplateError (Expr × List Token)
  | 0, _, _ => .error .syntaxError
  | n + 1, e, .mark '|' :: .word w :: .mark '(' :: .mark ')' :: r => filters n (.filtered e w) r
  | _ + 1, _, .mark '|' :: .word _ :: .mark '(' :: r => .error (Token.failure r)
  | n + 1, e, .mark '|' :: .word w :: r => filters n (.filtered e w) r
  | _ + 1, _, .mark '|' :: r => .error (Token.failure r)
  | _ + 1, e, r => .ok (e, r)

mutual

/-- An expression at the front of some tokens, nested at most `depth` deep.  The first number bounds
    the steps. -/
def nested : Nat → (depth : Nat) → List Token → Except TemplateError (Expr × List Token)
  | 0, _, _ => .error .syntaxError
  | _ + 1, 0, _ => .error .syntaxError
  | n + 1, depth + 1, ts => whole n depth ts

/-- An expression with all that belongs to it, nested inside of what counts its depth. -/
def whole : Nat → (depth : Nat) → List Token → Except TemplateError (Expr × List Token)
  | 0, _, _ => .error .syntaxError
  | n + 1, depth, ts => do
    let (e, r) ← operand n depth ts
    let (e, r) ← parts n depth e r
    filters n e r

def operand : Nat → (depth : Nat) → List Token → Except TemplateError (Expr × List Token)
  | 0, _, _ => .error .syntaxError
  | n + 1, depth, .mark '-' :: r => do
    let (e, r) ← operand n depth r
    return (.negated e, r)
  | _ + 1, _, .broken e :: _ => .error e
  | _ + 1, 0, _ => .error .syntaxError
  | _ + 1, _, .word w :: r => .ok (ofWord w, r)
  | _ + 1, _, .number i :: r => .ok (.literal (.int i), r)
  | _ + 1, _, .quoted s :: r => .ok (.literal (.str s), r)
  | n + 1, depth + 1, .mark '(' :: r => do
    let (e, r) ← nested n depth r
    let r ← Token.expect (.mark ')') r
    return (e, r)
  | _ + 1, _, ts => .error (Token.failure ts)

/-- Attributes, items and calls behind an expression. -/
def parts : Nat → (depth : Nat) → Expr → List Token → Except TemplateError (Expr × List Token)
  | 0, _, _, _ => .error .syntaxError
  | n + 1, depth, e, .mark '.' :: r => do
    let (w, r) ← Token.expectWord r
    parts n depth (.attribute e w) r
  | _ + 1, _, _, .mark '[' :: .broken e :: _ => .error e
  | n + 1, depth, e, .mark '[' :: r => do
    let (i, r) ← nested n depth r
    let r ← Token.expect (.mark ']') r
    parts n depth (.item e i) r
  | n + 1, depth, .variable w, .mark '(' :: .mark ')' :: r => parts n depth (ofCall w) r
  | _ + 1, _, _, .mark '(' :: r => .error (Token.failure r)
  | _ + 1, _, e, r => .ok (e, r)

end

end Expr

end RouteServer.View
