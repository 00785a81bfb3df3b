import RouteServer.Log.Level
import RouteServer.Log.Pattern
import RouteServer.Text.Alphanumeric
import RouteServer.Text.Blank
import RouteServer.Text.Split

/-
  **Filter directives** — which events of which targets pass.

  A directive is a limit, a target, or both with `=` between them; a target alone lets everything
  pass, and so does one with nothing behind the sign.  A target stands for all targets that begin
  with it.  Brackets behind the target speak of a span, and braces in them of a field: a directive
  that names a span, or wants a field to have some value, decides nothing about events, while one
  that only names a field decides about the events that have it.

  Where a part begins and ends is counted from the first character that is not blank, but the parts
  are cut out of the whole text, blanks in front included.  So with blanks in front every part
  begins too early, by as many characters.
-/

namespace RouteServer.Log

/-- A limit for the targets that begin with some text. -/
structure Directive where
  /-- all targets, when there is none -/
  target : Option String
  /-- a field that an event must have -/
  field : Option String
  limit : Limit
  deriving DecidableEq, Repr

namespace Directive

/-- The only field of an event: its message. -/
def eventField : String := "message"

/-- Whether a directive speaks of the events of a target. -/
def covers (d : Directive) (target : String) : Bool :=
  (d.target.all fun t => t.toList.isPrefixOf target.toList) && d.field.all (· == eventField)

/-- The limit behind a sign; nothing stands for everything. -/
def limitBehind? (s : List Char) : Option Limit :=
  if s.isEmpty then some (.upTo .trace) else Limit.ofText? s

/-- A text without signs: a limit or a target. -/
def ofWord (s : List Char) : Directive :=
  match Limit.ofText? s with
  | some limit => ⟨none, none, limit⟩
  | none => ⟨some (String.ofList s), none, .upTo .trace⟩

/-- What a directive decides about. -/
inductive Meaning where
  | events (d : Directive)
  | spans
  deriving DecidableEq, Repr

/-- Whether a directive may begin with a character. -/
def startsWith (c : Char) : Bool := Text.isAlphanumeric c || c ∈ ['-', ':', '_', '[']

/-- The characters from the place `i` up to the place `j`. -/
def cut (s : List Char) (i j : Nat) : List Char := (s.drop i).take (j - i)

/-- A field: its name, and whether it is to have some value, which has to be well-formed. -/
def field? (s : List Char) : Option (String × Bool) :=
  if s.isEmpty then none
  else match s.splitOn '=' with
    | name :: value :: _ =>
      if Pattern.isValue value then some (String.ofList name, true) else none
    | _ => some (String.ofList s, false)

/-- The limit behind brackets that end before the place `i` of `t`, which is `s` without the blanks
    around it. -/
def limitFrom? (s t : List Char) (i : Nat) : Option Limit :=
  match t.drop i with
  | [] => some (.upTo .trace)
  | '=' :: _ => limitBehind? (s.drop (i + 1))
  | _ => none

/-- What stands from the place `i` on, behind an opening bracket: a span, perhaps with a field, a
    closing bracket, and perhaps a limit. -/
def bracketed? (target : Option String) (s t : List Char) (i : Nat) : Option Meaning :=
  let span := (t.drop i).takeWhile fun c => c != ']' && c != '\x7b'
  let j := i + span.length
  match t.drop j with
  | ']' :: _ => (limitFrom? s t (j + 1)).map fun _ => .spans
  | _ :: r =>
    let k := j + 1 + (r.takeWhile (· != '\x7d')).length
    match t.drop k, field? (cut s (j + 1) k) with
    | '\x7d' :: ']' :: _, some (name, valued) =>
      (limitFrom? s t (k + 2)).map fun limit =>
        if valued || !span.isEmpty then .spans else .events ⟨target, some name, limit⟩
    | _, _ => none
  | [] => none

def read? (s : List Char) : Option Meaning :=
  let t := Text.trim s
  match t with
  | [] => none
  | c :: r =>
    if !startsWith c then none
    else if c = '[' then bracketed? none s t 1
    else
      let i := 1 + (r.takeWhile fun c => c != '=' && c != '[').length
      let target := String.ofList (cut s 0 i)
      match t.drop i with
      | [] => some (.events (ofWord s))
      | '=' :: _ =>
        (limitBehind? (s.drop (i + 1))).map fun limit => .events ⟨some target, none, limit⟩
      | _ => bracketed? (some target) s t (i + 1)

end Directive

end RouteServer.Log
