import RouteServer.View.Template
import RouteServer.View.Value

/-
  **Blocks in layers** — which body of a block is used.

  When a template extends another, both may have a body for the same block.  The bodies of a block
  lie in layers, the most derived first, and a block is written with the first of them.  Inside a
  block the content of the layer below can be written too; while that happens, the lower layer is
  the one in use.
-/

namespace RouteServer.View

/-- Finds templates by name. -/
abbrev Library := String → Except TemplateError Template

/-- The bodies of a block, the most derived first, and which of them is in use. -/
structure Layers where
  bodies : List (List Stmt)
  level : Nat

namespace Layers

/-- The body in use. -/
def body? (l : Layers) : Option (List Stmt) := l.bodies[l.level]?

def lower? (l : Layers) : Option Layers :=
  if l.level + 1 < l.bodies.length then some { l with level := l.level + 1 } else none

def raise (l : Layers) : Layers := { l with level := l.level - 1 }

def addBelow (l : Layers) (body : List Stmt) : Layers := { l with bodies := l.bodies ++ [body] }

end Layers

/-- The blocks in use, by name, and the names of the templates that were extended. -/
structure Ancestry where
  blocks : List (String × Layers)
  extended : List String

namespace Ancestry

/-- The blocks of one template that extends nothing so far. -/
def ofTemplate (t : Template) (extended : List String) : Ancestry :=
  ⟨t.blocks.map fun b => (b.1, ⟨[b.2], 0⟩), extended⟩

def layers? (a : Ancestry) (name : String) : Option Layers :=
  (a.blocks.find? (·.1 = name)).map (·.2)

/-- Changes the layers of a block. -/
def modify (a : Ancestry) (name : String) (f : Layers → Layers) : Ancestry :=
  { a with blocks := a.blocks.map fun b => if b.1 = name then (name, f b.2) else b }

/-- Puts a block of a parent below those of the same name. -/
def addBlock (a : Ancestry) (name : String) (body : List Stmt) : Ancestry :=
  if (a.layers? name).isSome then a.modify name (·.addBelow body)
  else { a with blocks := a.blocks ++ [(name, ⟨[body], 0⟩)] }

/-- Puts all blocks of a parent below, and notes its name. -/
def addParent (a : Ancestry) (name : String) (t : Template) : Ancestry :=
  let a := t.blocks.foldl (fun a b => a.addBlock b.1 b.2) a
  { a with extended := name :: a.extended }

/-- Lets a template extend the one of a name; no template is extended twice. -/
def extend (a : Ancestry) (library : Library) (name : String) :
    Except TemplateError (Ancestry × List Stmt) :=
  if a.extended.contains name then .error .invalidOperation
  else match library name with
    | .error e => .error e
    | .ok t => .ok (a.addParent name t, t.body)

/-- The layer below the one in use of the running block.  There is none outside of blocks, and none
    below the last. -/
def lower (a : Ancestry) (block : Option String) :
    Except TemplateError (String × List Stmt × Ancestry) :=
  match block with
  | none => .error .invalidOperation
  | some name =>
    match a.layers? name with
    | none => .error .strayBlock
    | some l =>
      match l.lower? with
      | none => .error .invalidOperation
      | some l => .ok (name, l.body?.getD [], a.modify name fun _ => l)

end Ancestry

/-- The first template of some names that exists.  With no names at all none is needed, and neither
    is an optional one. -/
def firstOf (library : Library) (optional : Bool) :
    (missing : Bool) → List Value → Except TemplateError (Option (String × Template))
  | missing, [] => if missing && !optional then .error .templateNotFound else .ok none
  | _, v :: r =>
    match v.templateName with
    | .error e => .error e
    | .ok name =>
      match library name with
      | .ok t => .ok (some (name, t))
      | .error .templateNotFound => firstOf library optional true r
      | .error e => .error e

end RouteServer.View
