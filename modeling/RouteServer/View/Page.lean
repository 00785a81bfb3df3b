import RouteServer.View.Blocks

/-
  **Evaluating templates** — from a template and a context to the text of a page.

  A template that extends another goes on silently to its end, and then its parent is evaluated in
  its place, with the blocks of both in layers.  An included template is evaluated by itself, with
  the variables of the place that includes it, and what it extends is forgotten afterwards.  What a
  silent template would write is dropped, and it calls no blocks, but all else in it is evaluated
  and may fail.

  Templates may include each other in circles and a block may come back to itself, so evaluation
  has limited room: every loop and block takes one unit, an include ten.  A chain of parents takes
  none, since no template is extended twice, but it is limited too.  Room, what is left of the
  chain, and the size of what is evaluated are the measure which ends evaluation.
-/

namespace RouteServer.View

/-- Where a statement is evaluated. -/
structure Scope where
  context : Json
  /-- loop variables, the innermost first -/
  loops : List (String × Value)
  /-- whether values are escaped -/
  escaping : Bool
  /-- the block that is running -/
  block : Option String
  /-- whether what is written is dropped -/
  silent : Bool

namespace Scope

/-- The value of a variable: a loop variable, a field of the context, or a function. -/
def get (sc : Scope) (name : String) : Value :=
  match sc.loops.find? (·.1 = name) with
  | some b => b.2
  | none =>
    match sc.context.field? name with
    | some v => .data v
    | none => if name ∈ Value.functions then .function name else .undefined

/-- What has been written is a value. -/
def capture (sc : Scope) (s : List Char) : Value :=
  if sc.escaping then .markup s else .data (.str (String.ofList s))

end Scope

/-- How far the evaluation of a template has come. -/
structure Progress where
  ancestry : Ancestry
  /-- what has been written, the last character first -/
  out : List Char
  /-- the template that comes next, and makes the rest of this one silent -/
  parent : Option (List Stmt)

namespace Progress

def start (a : Ancestry) : Progress := ⟨a, [], none⟩

/-- The scope in which the next statement is evaluated. -/
def within (p : Progress) (sc : Scope) : Scope := { sc with silent := sc.silent || p.parent.isSome }

/-- Writes a text, unless it is dropped. -/
def write (p : Progress) (sc : Scope) (s : List Char) : Progress :=
  if (p.within sc).silent then p else { p with out := s.reverse ++ p.out }

def text (p : Progress) : List Char := p.out.reverse

def extend (p : Progress) (library : Library) (v : Value) : Except TemplateError Progress :=
  if p.parent.isSome then .error .invalidOperation
  else match v.templateName with
    | .error e => .error e
    | .ok name =>
      (p.ancestry.extend library name).map fun h => { p with ancestry := h.1, parent := some h.2 }

end Progress

/-- How long a chain of parents can be. -/
def maxChain : Nat := 1000000

mutual

/-- Evaluates statements, and then the template that they extend.  `chain` bounds the parents. -/
def page (library : Library) (room chain : Nat) (sc : Scope) (a : Ancestry) (body : List Stmt) :
    Except TemplateError (Ancestry × List Char) :=
  match statements library room sc (.start a) body with
  | .error e => .error e
  | .ok p =>
    match p.parent, chain with
    | none, _ => .ok (p.ancestry, p.text)
    | some _, 0 => .error .invalidOperation
    | some parent, chain + 1 =>
      (page library room chain sc p.ancestry parent).map fun h => (h.1, p.text ++ h.2)
termination_by (room, chain + 1, 0, 0)

def statements (library : Library) (room : Nat) (sc : Scope) (p : Progress) (body : List Stmt) :
    Except TemplateError Progress :=
  match body with
  | [] => .ok p
  | s :: r =>
    match statement library room sc p s with
    | .error e => .error e
    | .ok p => statements library room sc p r
termination_by (room, 0, sizeOf body, 0)

def statement (library : Library) (room : Nat) (sc : Scope) (p : Progress) (s : Stmt) :
    Except TemplateError Progress :=
  match s with
  | .text s => .ok (p.write sc s)
  | .output .overridden =>
    match overridden library room (p.within sc) p.ancestry with
    | .error e => .error e
    | .ok (a, s) => .ok ({ p with ancestry := a }.write sc s)
  | .output e =>
    match value library room sc p.ancestry e with
    | .error e => .error e
    | .ok (a, v) => .ok ({ p with ancestry := a }.write sc (v.written sc.escaping))
  | .choice test body otherwise =>
    match value library room sc p.ancestry test with
    | .error e => .error e
    | .ok (a, v) =>
      if v.holds then statements library room sc { p with ancestry := a } body
      else statements library room sc { p with ancestry := a } otherwise
  | .loop name source body otherwise =>
    match value library room sc p.ancestry source with
    | .error e => .error e
    | .ok (a, v) =>
      match v.elements?, room with
      | none, _ => .error .invalidOperation
      | some _, 0 => .error .invalidOperation
      | some [], room + 1 => statements library (room + 1) sc { p with ancestry := a } otherwise
      | some items, room + 1 => repeated library room sc { p with ancestry := a } name body items
  | .block name body =>
    if (p.within sc).silent then .ok p
    else
      match room with
      | 0 => .error .invalidOperation
      | room + 1 =>
        let body := ((p.ancestry.layers? name).bind Layers.body?).getD body
        match page library room maxChain { sc with block := some name } p.ancestry body with
        | .error e => .error e
        | .ok (a, s) => .ok ({ p with ancestry := a }.write sc s)
  | .extend e =>
    match value library room sc p.ancestry e with
    | .error e => .error e
    | .ok (a, v) => { p with ancestry := a }.extend library v
  | .embed e optional =>
    match value library room sc p.ancestry e with
    | .error e => .error e
    | .ok (a, v) =>
      let p := { p with ancestry := a }
      match firstOf library optional false v.choices with
      | .error e => .error e
      | .ok none => .ok p
      | .ok (some (name, t)) =>
        if 10 < room then
          let sc' := { p.within sc with escaping := Template.escapes name }
          match page library (room - 10) maxChain sc' (.ofTemplate t a.extended) t.body with
          | .error e => .error (.outside .badInclude e)
          | .ok (_, s) => .ok (p.write sc s)
        else .error .invalidOperation
termination_by (room, 0, sizeOf s, 0)

/-- Evaluates the body of a loop for some elements. -/
def repeated (library : Library) (room : Nat) (sc : Scope) (p : Progress) (name : String)
    (body : List Stmt) (elements : List Value) : Except TemplateError Progress :=
  match elements with
  | [] => .ok p
  | v :: r =>
    match statements library room { sc with loops := (name, v) :: sc.loops } p body with
    | .error e => .error e
    | .ok p => repeated library room sc p name body r
termination_by (room, 0, sizeOf body, elements.length + 1)

/-- Evaluates an expression.  It may write the content of a block, which is its value then. -/
def value (library : Library) (room : Nat) (sc : Scope) (a : Ancestry) (e : Expr) :
    Except TemplateError (Ancestry × Value) :=
  match e with
  | .literal v => .ok (a, .data v)
  | .variable name => .ok (a, sc.get name)
  | .attribute e name =>
    match value library room sc a e with
    | .error e => .error e
    | .ok (a, v) => (v.property name).map (a, ·)
  | .item e i =>
    match value library room sc a e with
    | .error e => .error e
    | .ok (a, v) =>
      match value library room sc a i with
      | .error e => .error e
      | .ok (a, i) => (v.item i).map (a, ·)
  | .filtered e name =>
    match value library room sc a e with
    | .error e => .error e
    | .ok (a, v) => (v.filtered name).map (a, ·)
  | .negated e =>
    match value library room sc a e with
    | .error e => .error e
    | .ok (a, v) => v.negated.map (a, ·)
  | .call name => (sc.get name).call.map (a, ·)
  | .overridden =>
    match overridden library room { sc with silent := false } a with
    | .error e => .error e
    | .ok (a, s) => .ok (a, sc.capture s)
termination_by (room, 0, sizeOf e, 0)

/-- Evaluates the content that the running block overrides. -/
def overridden (library : Library) (room : Nat) (sc : Scope) (a : Ancestry) :
    Except TemplateError (Ancestry × List Char) :=
  match a.lower sc.block, room with
  | .error e, _ => .error e
  | .ok _, 0 => .error .invalidOperation
  | .ok (name, body, a), room + 1 =>
    match page library room maxChain sc a body with
    | .error e => .error (.outside .badBlock e)
    | .ok (a, s) => .ok (a.modify name Layers.raise, s)
termination_by (room, 0, 0, 0)

end

/-- How much room an evaluation has. -/
def fullRoom : Nat := 500

def Template.render (library : Library) (name : String) (t : Template) (context : Json) :
    Except TemplateError (List Char) :=
  let sc : Scope := ⟨context, [], Template.escapes name, none, false⟩
  (page library fullRoom maxChain sc (.ofTemplate t []) t.body).map (·.2)

end RouteServer.View
