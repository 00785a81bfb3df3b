import RouteServer.Yaml.Source

/-
  **Plain scalars** — values without quotes.

  A plain scalar ends at a colon with space behind it, at a comment, at a line that is indented
  less, and inside braces also at what separates entries.  Space at its end does not belong to it,
  and the line ends inside it are folded.
-/

namespace RouteServer.Yaml

def isFlowMark (c : Char) : Bool := c ∈ [',', '[', ']', '\x7b', '\x7d']

def startsPlain (flow : Bool) : Source → Bool
  | [] => false
  | (c, _) :: r =>
    if c = '-' then !Source.atGap r
    else if c = '?' ∨ c = ':' then !flow && !Source.atGap r
    else !(isSpace c || isBreak c || isFlowMark c ||
      c ∈ ['#', '&', '*', '!', '|', '>', '\'', '"', '%', '@', '\x60'])

namespace Plain

/-- A word of a plain scalar.  Inside braces a colon must not touch a mark. -/
def word? (flow : Bool) : Source → Option (List Char × Source)
  | [] => some ([], [])
  | (c, k) :: r =>
    if isSpace c || isBreak c then some ([], (c, k) :: r)
    else if flow && c == ':' && (r.head?.any fun p => isFlowMark p.1 || p.1 == '?') then none
    else if (c == ':' && Source.atGap r) || (flow && isFlowMark c) then some ([], (c, k) :: r)
    else (word? flow r).map fun h => (c :: h.1, h.2)

/-- Space behind a word: the spaces of its line or, from the first line end on, the line ends.  A
    tab must not stand where indentation belongs. -/
def space? (indent : Nat) (spaces breaks : List Char) :
    Source → Option (List Char × List Char × Source)
  | [] => some (spaces, breaks, [])
  | (c, k) :: r =>
    if isBreak c then space? indent [] (breaks ++ [c]) r
    else if isSpace c then
      if breaks.isEmpty then space? indent (spaces ++ [c]) [] r
      else if c = '\t' ∧ k < indent then none
      else space? indent [] breaks r
    else some (spaces, breaks, (c, k) :: r)

/-- Words and the space between them; the space behind the last word is dropped.  Also says whether
    a line end is in it.  The number bounds the words. -/
def read? (flow : Bool) (indent : Nat) : Nat → Source → Option (List Char × Source × Bool)
  | 0, _ => none
  | n + 1, s =>
    match word? flow s with
    | none => none
    | some (w, r) =>
      match space? indent [] [] r with
      | none => none
      | some (spaces, breaks, next) =>
        let ended := ([], next, !breaks.isEmpty)
        let stops := match next with
          | [] => true
          | (c, k) :: _ =>
            c == '#' || (!flow && !breaks.isEmpty && k < indent) || Source.atMarker next
        let more := match word? flow next with
          | some ([], _) => some ended
          | some _ =>
            (read? flow indent n next).map fun h =>
              ((if breaks.isEmpty then spaces else foldBreaks breaks) ++ h.1, h.2)
          | none => none
        let rest := if stops then some ended else more
        rest.map fun h => (w ++ h.1, h.2)

end Plain

/-- A plain scalar at the front.  In block style its further lines are indented by `indent` at
    least.  Also says whether a line end stands behind its last word. -/
def plain? (flow : Bool) (indent : Nat) (s : Source) : Option (List Char × Source × Bool) :=
  Plain.read? flow indent (s.length + 1) s

end RouteServer.Yaml
