import RouteServer.Log.Directive

/-
  **Event filters** — a list of directives, of which the most exact one decides.

  For an event the directive with the longest target that covers it decides; the one without a
  target comes last.  Of two with the same target the one that names a field comes first.  No two
  directives have the same target and the same field, because a new one replaces the old, so there
  is never a tie: of two targets that both begin a text, one is longer, and events have one field.
  An event that no directive covers does not pass.
-/

namespace RouteServer.Log

/-- Directives that differ in target or field. -/
structure Filter where
  directives : List Directive
  deriving DecidableEq, Repr

namespace Filter

def empty : Filter := ⟨[]⟩

/-- Adds a directive, in place of one with the same target and the same field. -/
def add (f : Filter) (d : Directive) : Filter :=
  ⟨f.directives.filter (fun e => e.target ≠ d.target ∨ e.field ≠ d.field) ++ [d]⟩

def addMeaning (f : Filter) : Directive.Meaning → Filter
  | .events d => f.add d
  | .spans => f

/-- How exact a directive is: twice the weight of its target, and one for a field. -/
def weight (d : Directive) : Nat :=
  let target := d.target.elim 0 fun t => t.utf8ByteSize + 1
  2 * target + d.field.elim 0 fun _ => 1

/-- The more exact of two directives, the first of them when they are equally exact. -/
def moreExact (best : Option Directive) (d : Directive) : Option Directive :=
  match best with
  | none => some d
  | some b => if weight b < weight d then some d else some b

def deciding? (f : Filter) (target : String) : Option Directive :=
  (f.directives.filter (·.covers target)).foldl moreExact none

def lets (f : Filter) (target : String) (l : Level) : Bool :=
  (f.deciding? target).any (·.limit.lets l)

def readAll? : List (List Char) → Option (List Directive.Meaning)
  | [] => some []
  | s :: r =>
    match Directive.read? s with
    | none => none
    | some d => (readAll? r).map (d :: ·)

/-- The filter of directives between commas.  Without any, nothing passes. -/
def ofText? (s : String) : Option Filter :=
  (readAll? ((s.toList.splitOn ',').filter (!·.isEmpty))).map fun ds =>
    if ds.isEmpty then empty.add ⟨none, none, .off⟩ else ds.foldl addMeaning empty

end Filter

end RouteServer.Log
