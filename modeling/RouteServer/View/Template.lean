import RouteServer.View.Expr

/-
  **Templates** — the statements of a template and how they are written.

  A statement writes something, chooses, repeats, names a block that other templates may override,
  or brings in another template.  `parse` reads the text of a template from the front and reports
  the first thing that is wrong.  Block names have to differ, and statements may be nested only so
  deep.
-/

namespace RouteServer.View

inductive Stmt where
  | text (s : List Char)
  | output (e : Expr)
  | choice (test : Expr) (body otherwise : List Stmt)
  | loop (name : String) (source : Expr) (body otherwise : List Stmt)
  | block (name : String) (body : List Stmt)
  | extend (name : Expr)
  /-- the first template of some names that exists; there need not be one if it is optional -/
  | embed (name : Expr) (optional : Bool)
  deriving Repr

namespace Stmt

/-- What is left to read of a template, and the names of the blocks so far. -/
structure Source where
  tokens : List Token
  blocks : List String

/-- Statements up to the tag that ends them, the word of that tag, and what follows the word. -/
structure Body where
  stmts : List Stmt
  last : Option String
  rest : Source

def Body.cons (s : Stmt) (b : Body) : Body := { b with stmts := s :: b.stmts }

/-- Names that a loop cannot bind. -/
def isReserved (name : String) : Bool :=
  (Expr.constant? name).isSome || name == "loop" || name == "self"

/-- Words of tags that end or divide statements. -/
def endsBody (w : String) : Bool := w ∈ ["else", "elif", "endif", "endfor", "endblock"]

def Source.closeTag (s : Source) : Except TemplateError Source := do
  return { s with tokens := ← Token.expect .closeTag s.tokens }

/-- An expression at the front of a source, nested at most `depth` deep.  `steps` bounds the reading
    of it. -/
def Source.expr (steps depth : Nat) (s : Source) : Except TemplateError (Expr × Source) := do
  let (e, r) ← Expr.nested steps depth s.tokens
  return (e, { s with tokens := r })

/-- What the end of a block may repeat: its name. -/
def dropName (name : String) (s : Source) : Except TemplateError Source :=
  match s.tokens with
  | .word w :: r => if w = name then .ok { s with tokens := r } else .error .syntaxError
  | _ => .ok s

/-- Words about variables behind the name of an included template, which change nothing. -/
def dropContext : List Token → Except TemplateError (List Token)
  | .word w :: r =>
    if w = "with" ∨ w = "without" then Token.expect (.word "context") r else .ok (.word w :: r)
  | ts => .ok ts

/-- Whether an included template is optional, and what follows. -/
def optional (ts : List Token) : Except TemplateError (Bool × List Token) := do
  let ts ← dropContext ts
  match ts with
  | .word "ignore" :: r =>
    let r ← Token.expect (.word "missing") r
    return (true, ← dropContext r)
  | _ => return (false, ts)

mutual

/-- Statements up to a tag that ends them, nested at most `depth` deep.  The first number bounds the
    steps. -/
def readAll : Nat → (depth : Nat) → Source → Except TemplateError Body
  | 0, _, _ => .error .syntaxError
  | _ + 1, _, ⟨[], blocks⟩ => .ok ⟨[], none, ⟨[], blocks⟩⟩
  | n + 1, depth, ⟨.text s :: r, blocks⟩ => do
    let b ← readAll n depth ⟨r, blocks⟩
    return b.cons (.text s)
  | n + 1, depth, ⟨.openOutput :: r, blocks⟩ => do
    let (e, s) ← Source.expr n depth ⟨r, blocks⟩
    let r ← Token.expect .closeOutput s.tokens
    let b ← readAll n depth { s with tokens := r }
    return b.cons (.output e)
  | n + 1, depth, ⟨.openTag :: .word w :: r, blocks⟩ =>
    if endsBody w then .ok ⟨[], some w, ⟨r, blocks⟩⟩
    else
      match depth with
      | 0 => .error .syntaxError
      | inner + 1 => do
        let (s, rest) ← tag n inner w ⟨r, blocks⟩
        let rest ← rest.closeTag
        let b ← readAll n depth rest
        return b.cons s
  | _ + 1, _, ⟨.openTag :: ts, _⟩ => .error (Token.failure ts)
  | _ + 1, _, ⟨ts, _⟩ => .error (Token.failure ts)

/-- The statement that a word of a tag begins, up to the end of its last tag. -/
def tag : Nat → (depth : Nat) → String → Source → Except TemplateError (Stmt × Source)
  | 0, _, _, _ => .error .syntaxError
  | n + 1, depth, w, s =>
    if w = "if" then choiceFrom n depth s
    else if w = "for" then do
      let (name, r) ← Token.expectWord s.tokens
      if isReserved name then .error .syntaxError
      else
        let r ← Token.expect (.word "in") r
        let (e, r) ← Expr.whole n depth r
        loopFrom n depth name e { s with tokens := r }
    else if w = "block" then do
      let (name, r) ← Token.expectWord s.tokens
      if name ∈ s.blocks then .error .syntaxError
      else
        let s ← Source.closeTag ⟨r, name :: s.blocks⟩
        let b ← readAll n depth s
        if b.last = some "endblock" then do
          let rest ← dropName name b.rest
          return (.block name b.stmts, rest)
        else .error .syntaxError
    else if w = "extends" then do
      let (e, s) ← s.expr n depth
      return (.extend e, s)
    else if w = "include" then do
      let (e, s) ← s.expr n depth
      let (optional, r) ← optional s.tokens
      return (.embed e optional, { s with tokens := r })
    else .error .syntaxError

/-- A choice, from its test on. -/
def choiceFrom : Nat → (depth : Nat) → Source → Except TemplateError (Stmt × Source)
  | 0, _, _ => .error .syntaxError
  | n + 1, depth, s => do
    let (e, s) ← s.expr n depth
    let s ← s.closeTag
    let b ← readAll n depth s
    match b.last with
    | some "endif" => return (.choice e b.stmts [], b.rest)
    | some "elif" =>
      let (other, rest) ← choiceFrom n depth b.rest
      return (.choice e b.stmts [other], rest)
    | some "else" =>
      let s ← b.rest.closeTag
      let other ← readAll n depth s
      if other.last = some "endif" then return (.choice e b.stmts other.stmts, other.rest)
      else .error .syntaxError
    | _ => .error .syntaxError

/-- A loop, from the end of its first tag on. -/
def loopFrom : Nat → (depth : Nat) → String → Expr → Source → Except TemplateError (Stmt × Source)
  | 0, _, _, _, _ => .error .syntaxError
  | n + 1, depth, name, e, s => do
    let s ← s.closeTag
    let b ← readAll n depth s
    match b.last with
    | some "endfor" => return (.loop name e b.stmts [], b.rest)
    | some "else" =>
      let s ← b.rest.closeTag
      let other ← readAll n depth s
      if other.last = some "endfor" then return (.loop name e b.stmts other.stmts, other.rest)
      else .error .syntaxError
    | _ => .error .syntaxError

end

mutual

/-- The blocks of a statement, outer ones first. -/
def blocks : Stmt → List (String × List Stmt)
  | .choice _ body otherwise => blocksOf body ++ blocksOf otherwise
  | .loop _ _ body otherwise => blocksOf body ++ blocksOf otherwise
  | .block name body => (name, body) :: blocksOf body
  | _ => []

def blocksOf : List Stmt → List (String × List Stmt)
  | [] => []
  | s :: r => blocks s ++ blocksOf r

end

end Stmt

/-- A template: its statements, and its blocks by name. -/
structure Template where
  body : List Stmt
  blocks : List (String × List Stmt)
  deriving Repr

namespace Template

def maxDepth : Nat := 150

def parse (s : List Char) : Except TemplateError Template :=
  let tokens := Token.ofText s
  match Stmt.readAll (6 * tokens.length + 6) maxDepth ⟨tokens, []⟩ with
  | .error e => .error e
  | .ok b => if b.last.isSome then .error .syntaxError else .ok ⟨b.stmts, Stmt.blocksOf b.stmts⟩

/-- Whether values are escaped where a template of this name writes them: its last piece after a
    point, a final `.j2` aside, says that it is markup. -/
def escapes (name : String) : Bool :=
  let s := (Text.stripEnd ".j2".toList name.toList).getD name.toList
  let last := s.reverse.takeWhile (· != '.')
  last == "html".toList.reverse || last == "htm".toList.reverse || last == "xml".toList.reverse

end Template

end RouteServer.View
