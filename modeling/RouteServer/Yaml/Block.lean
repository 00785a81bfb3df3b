import RouteServer.Yaml.Source

/-
  **Block scalars** — values on lines of their own, behind `|` or `>`.

  The first line with content fixes the indentation, unless the header gives it.  Literal text keeps
  its line ends and folded text joins lines, except next to lines that are indented further.  The
  header also says what becomes of the line ends at the end: all but one are dropped, all are kept,
  or none is.
-/

namespace RouteServer.Yaml

/-- What becomes of the line ends at the end of a block scalar. -/
inductive Chomping where
  | clip
  | keep
  | strip
  deriving DecidableEq, Repr

namespace Block

def chompingOf? (c : Char) : Option Chomping :=
  if c = '+' then some .keep else if c = '-' then some .strip else none

def indentOf? (c : Char) : Option Nat :=
  if c.isDigit && c != '0' then some (c.toNat - '0'.toNat) else none

/-- The header of a block scalar, in either order, and what follows the line. -/
def header? (s : Source) : Option (Chomping × Option Nat × Source) :=
  let read : Chomping × Option Nat × Source :=
    match s with
    | [] => (.clip, none, [])
    | (a, _) :: r =>
      match chompingOf? a, indentOf? a with
      | some c, _ =>
        match r.head?.bind fun p => indentOf? p.1 with
        | some n => (c, some n, r.drop 1)
        | none => (c, none, r)
      | none, some n =>
        match r.head?.bind fun p => chompingOf? p.1 with
        | some c => (c, some n, r.drop 1)
        | none => (.clip, some n, r)
      | none, none => (.clip, none, s)
  let (chomping, indent, r) := read
  (Source.dropLine? r).map fun r => (chomping, indent, r)

/-- Empty lines and the indentation of the line after them.  While the indentation is unknown every
    space belongs to it, and the largest number of spaces seen is returned. -/
def emptyLines? (indent : Option Nat) (deepest : Nat) :
    Source → Option (List Char × Nat × Source)
  | [] => some ([], deepest, [])
  | (c, k) :: r =>
    let indenting := indent.all (k < ·)
    if isBreak c then
      (emptyLines? indent (max deepest k) r).map fun h => (c :: h.1, h.2)
    else if indenting && c == ' ' then emptyLines? indent (max deepest (k + 1)) r
    else if indenting && c == '\t' then none
    else some ([], max deepest k, (c, k) :: r)

/-- The lines of a block scalar with this indentation: their text, the end of the last line, and
    the empty lines behind it.

    `last` is the end of the line before, `breaks` are the empty lines behind that, and `spaced`
    says whether it begins with a space.  The number bounds the lines. -/
def lines? (folded : Bool) (indent : Nat) :
    Nat → (last breaks : List Char) → (spaced : Bool) → Source →
    Option (List Char × List Char × List Char × Source)
  | 0, _, _, _, _ => none
  | _ + 1, last, breaks, _, [] => some ([], last, breaks, [])
  | n + 1, last, breaks, spaced, (c, k) :: r =>
    if k ≠ indent then some ([], last, breaks, (c, k) :: r)
    else
      let joined :=
        if folded && !last.isEmpty && !spaced && !isSpace c then foldBreaks (last ++ breaks)
        else last ++ breaks
      let line := ((c, k) :: r).takeWhile fun p => !isBreak p.1
      let rest := ((c, k) :: r).drop line.length
      match emptyLines? (some indent) 0 (rest.drop 1) with
      | none => none
      | some (breaks, _, next) =>
        (lines? folded indent n ((rest.take 1).map (·.1)) breaks (isSpace c) next).map fun h =>
          (joined ++ line.map (·.1) ++ h.1, h.2)

/-- The line ends that stay at the end of a block scalar. -/
def ending (chomping : Chomping) (last breaks : List Char) : List Char :=
  match chomping with
  | .clip => last
  | .keep => last ++ breaks
  | .strip => []

end Block

/-- A block scalar, from behind its mark.  Its lines are indented by `least` at least; an
    indentation in the header counts from one column before that. -/
def block? (folded : Bool) (least : Nat) (s : Source) : Option (List Char × Source) :=
  match Block.header? s with
  | none => none
  | some (chomping, given, r) =>
    let given := given.map (least - 1 + ·)
    match Block.emptyLines? given 0 r with
    | none => none
    | some (leading, deepest, r) =>
      let indent := given.getD (max deepest (max least 1))
      (Block.lines? folded indent (r.length + 1) [] leading false r).map fun h =>
        (h.1 ++ Block.ending chomping h.2.1 h.2.2.1, h.2.2.2)

end RouteServer.Yaml
