/-
  **Placed characters** — the text of a settings file, each character with its column.

  In YAML a column decides what belongs to what, so the readers work on characters that know theirs.
  Line ends of all kinds but two are the same character here; the line and paragraph separators of
  Unicode also end a line and stay what they are.
-/

namespace RouteServer.Yaml

/-- A text whose characters know their columns. -/
abbrev Source := List (Char × Nat)

def isBreak (c : Char) : Bool := c == '\n' || c == Char.ofNat 0x2028 || c == Char.ofNat 0x2029

def isSpace (c : Char) : Bool := c == ' ' || c == '\t'

/-- Whether a character may stand in a settings file at all. -/
def isAllowed (c : Char) : Bool :=
  let n := c.toNat
  n == 0x09 || n == 0x0A || n == 0x0D || (0x20 ≤ n && n ≤ 0x7E) || n == 0x85 ||
  (0xA0 ≤ n && n ≤ 0xFFFD) || 0x10000 ≤ n

/-- The byte order mark.  At the start of a line it is space between tokens, though it takes a
    column; anywhere else it is a character like others. -/
def byteOrderMark : Char := Char.ofNat 0xFEFF

/-- The characters of names: ASCII letters and digits, `_` and `-`. -/
def isNameChar (c : Char) : Bool := c.isAlphanum || c == '_' || c == '-'

/-- Makes line ends of one or two characters one line feed. -/
def unifyBreaks : List Char → List Char
  | '\r' :: '\n' :: r => '\n' :: unifyBreaks r
  | c :: r => (if c = '\r' ∨ c = Char.ofNat 0x85 then '\n' else c) :: unifyBreaks r
  | [] => []

namespace Source

/-- Gives characters their columns, counted from `column`. -/
def place (column : Nat) : List Char → Source
  | [] => []
  | c :: r => (c, column) :: place (if isBreak c then 0 else column + 1) r

/-- The placed characters of a text.  Some characters are not allowed. -/
def ofText? (s : List Char) : Option Source :=
  if s.all isAllowed then some (place 0 (unifyBreaks s)) else none

/-- Whether a word cannot go on here: at the end, at a space or at a line end. -/
def atGap : Source → Bool
  | [] => true
  | (c, _) :: _ => isSpace c || isBreak c

/-- Whether a line of three dashes or three points begins here. -/
def atMarker : Source → Bool
  | (a, 0) :: (b, _) :: (c, _) :: r => a == b && b == c && (a == '-' || a == '.') && atGap r
  | _ => false

def skipSpaces (s : Source) : Source := s.dropWhile fun p => isSpace p.1

/-- Drops spaces, line ends and comments.  Tabs count as space only where `tabs` says so; in block
    style that ends with the line, since a tab is no indentation.  Also says whether tabs still
    count at the end. -/
def skip (flow : Bool) (tabs inComment : Bool) : Source → Source × Bool
  | [] => ([], tabs)
  | (c, k) :: r =>
    if isBreak c then skip flow flow false r
    else if inComment || c == ' ' || (c == '\t' && tabs) then skip flow tabs inComment r
    else if k = 0 ∧ c = byteOrderMark then skip flow tabs false r
    else if c = '#' then skip flow tabs true r
    else ((c, k) :: r, tabs)

/-- Whether the rest of a line holds no more than spaces and a comment. -/
def lineDone (s : Source) : Bool :=
  match skipSpaces s with
  | [] => true
  | (c, _) :: _ => isBreak c || c == '#'

/-- Drops spaces and a comment, and the line end behind them. -/
def dropLine? (s : Source) : Option Source :=
  if lineDone s then
    some (((skipSpaces s).dropWhile fun p => !isBreak p.1).drop 1)
  else none

/-- What a reader took from the front of `s` to leave `rest`. -/
def taken (s rest : Source) : List Char := (s.take (s.length - rest.length)).map (·.1)

/-- Whether what was taken can be a key that is not marked as one: within one line and not
    too long. -/
def isShort (s rest : Source) : Bool :=
  let t := taken s rest
  t.length ≤ 1024 && !t.any isBreak

end Source

/-- Line ends inside a text that goes on: one of them is a space, more are one fewer. -/
def foldBreaks : List Char → List Char
  | [] => []
  | [b] => if b = '\n' then [' '] else [b]
  | b :: r => if b = '\n' then r else b :: r

end RouteServer.Yaml
