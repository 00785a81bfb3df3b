import RouteServer.Route.Match
import RouteServer.Text.Blank

/-
  **Compiled routes** — a checked template with its segments, and its text as a regular expression.

  A template has to hold more than blank characters, and gets a slash in front when it has none.
  The expression is for people and for listings: `^`, each literal with its special characters
  escaped, a group for each placeholder, and `/?$`.  Two compiled routes are equivalent when their
  expressions are the same text, which leaves the names of the placeholders out.

  Libraries of regular expressions refuse expressions that grow too large when they are compiled.
  There is no such limit here: every template that is not blank is compiled, and the error that
  stands for such a refusal is left out of `RouteError`.
-/

namespace RouteServer.Route

/-- Why a template is refused.  Its size is never the reason. -/
inductive RouteError where
  /-- there is no template -/
  | missing
  /-- the template is empty or blank -/
  | blank (template : String)
  deriving DecidableEq, Repr

def RouteError.message : RouteError → String
  | .missing => "invalid route template: no template given"
  | .blank t => "invalid route template '" ++ t ++ "': a route must not be empty or blank"

/-- A template that can be matched against paths. -/
structure Pattern where
  /-- the template, with a slash in front -/
  template : String
  segments : List Segment
  deriving DecidableEq, Repr

/-- Whether a template holds nothing but blank characters. -/
def isBlankTemplate (t : String) : Bool := (Text.trim t.toList).isEmpty

/-- The template with a slash in front. -/
def normalize (t : String) : String :=
  match t.toList with
  | '/' :: _ => t
  | s => String.ofList ('/' :: s)

theorem exists_normalize_eq (t : String) : ∃ r, (normalize t).toList = '/' :: r := by
  rw [normalize]
  split
  · rename_i r hr
    exact ⟨r, hr⟩
  · exact ⟨_, String.toList_ofList⟩

theorem normalize_of_slash {t : String} {r : List Char} (h : t.toList = '/' :: r) :
    normalize t = t := by
  simp only [normalize, h]

theorem normalize_of_not_slash {t : String} (h : t.toList.head? ≠ some '/') :
    normalize t = "/" ++ t := by
  rw [normalize]
  split
  · rename_i r hr
    exact absurd (by rw [hr]; rfl) h
  · apply String.ext
    simp

theorem normalize_normalize (t : String) : normalize (normalize t) = normalize t := by
  obtain ⟨r, hr⟩ := exists_normalize_eq t
  exact normalize_of_slash hr

theorem isBlankTemplate_of_slash {t : String} {r : List Char} (h : t.toList = '/' :: r) :
    isBlankTemplate t = false := by
  rw [isBlankTemplate, List.isEmpty_eq_false_iff, ne_eq, Text.trim_eq_nil_iff, h]
  intro hblank
  exact absurd (hblank '/' List.mem_cons_self) (by decide)

theorem isBlankTemplate_normalize (t : String) : isBlankTemplate (normalize t) = false := by
  obtain ⟨r, hr⟩ := exists_normalize_eq t
  exact isBlankTemplate_of_slash hr

/-- The route of a template that is not blank. -/
def Pattern.ofTemplate (t : String) : Pattern := ⟨normalize t, parseTemplate (normalize t)⟩

theorem Pattern.ofTemplate_normalize (t : String) : ofTemplate (normalize t) = ofTemplate t := by
  rw [ofTemplate, normalize_normalize, ofTemplate]

def compileDeclared : Option String → Except RouteError Pattern
  | none => .error .missing
  | some t => if isBlankTemplate t then .error (.blank t) else .ok (.ofTemplate t)

def compile (t : String) : Except RouteError Pattern := compileDeclared (some t)

theorem compile_of_visible {t : String} (h : isBlankTemplate t = false) :
    compile t = .ok (.ofTemplate t) := by
  rw [compile, compileDeclared, h]
  rfl

theorem compile_normalize (t : String) : compile (normalize t) = .ok (.ofTemplate t) := by
  rw [compile_of_visible (isBlankTemplate_normalize t), Pattern.ofTemplate_normalize]

/-- The characters that mean something in a regular expression. -/
def isSpecial (c : Char) : Bool :=
  c ∈ ['\\', '.', '+', '*', '?', '(', ')', '|', '[', ']', '{', '}', '^', '$', '#', '&', '-', '~']

def escapeLiteral (s : List Char) : List Char :=
  s.flatMap fun c => if isSpecial c then ['\\', c] else [c]

def Kind.group : Kind → String
  | .int => "([0-9]*)"
  | .str => "([A-Za-z0-9_]+)"

/-- A segment as a part of a regular expression. -/
def Segment.expression : Segment → List Char
  | .literal text => escapeLiteral text.toList
  | .capture p => p.kind.group.toList

def Pattern.expression (p : Pattern) : String :=
  String.ofList ('^' :: p.segments.flatMap Segment.expression ++ ['/', '?', '$'])

/-- Whether two routes have the same regular expression. -/
def Pattern.equivalent (a b : Pattern) : Bool := a.expression == b.expression

def Pattern.params (p : Pattern) : List Placeholder := placeholders p.segments

def Pattern.paramCount (p : Pattern) : Nat := p.params.length

def Pattern.isMatch (p : Pattern) (path : String) : Bool := Route.isMatch p.segments path.toList

/-- The texts that a path gives to the placeholders, if it matches. -/
def Pattern.captures (p : Pattern) (path : String) : Option (List String) :=
  (Route.captures p.segments path.toList).map fun vs => vs.map String.ofList

end RouteServer.Route
