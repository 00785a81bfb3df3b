import RouteServer.Text.Split
import RouteServer.View.Error
import RouteServer.View.Quoted

/-
  **Template text as tokens** — plain text, and what stands in outputs and tags.

  An output `{{ … }}` or a tag `{% … %}` begins at its opening mark and its tokens run to the
  closing mark that belongs to it; closing marks anywhere else are plain text.  A comment is an
  empty text.  Where a text cannot be cut into tokens any further, the last token says why, so that
  it counts only for a reader that gets so far.
-/

namespace RouteServer.View

inductive Token where
  | text (s : List Char)
  | openOutput
  | closeOutput
  | openTag
  | closeTag
  | word (s : String)
  | number (n : Nat)
  | quoted (s : String)
  | mark (c : Char)
  /-- what cannot be read, and why -/
  | broken (e : TemplateError)
  deriving DecidableEq, Repr

namespace Token

/-- What surrounds a place in a template. -/
inductive Place where
  | text
  | output
  | tag
  deriving DecidableEq, Repr

def startsWord (c : Char) : Bool := c.isAlpha || c == '_'

def continuesWord (c : Char) : Bool := c.isAlphanum || c == '_'

/-- Whether a character only separates tokens. -/
def isSpace (c : Char) : Bool := c == ' ' || c == '\t' || c == '\n' || c == '\r' || c == '\x0c'

/-- What numbers in a template are below: 2^128. -/
def numberBound : Nat := 0x100000000000000000000000000000000

/-- The token that begins with `c`, inside an output or a tag, and what follows it. -/
def read (c : Char) (r : List Char) : Token × List Char :=
  if startsWord c then
    (.word (String.ofList (c :: r.takeWhile continuesWord)), r.dropWhile continuesWord)
  else if c.isDigit then
    match Text.Numeral.value? 10 (c :: r.takeWhile Char.isDigit) with
    | some n =>
      if n < numberBound then (.number n, r.dropWhile Char.isDigit)
      else (.broken .syntaxError, [])
    | none => (.broken .syntaxError, [])
  else if c = '"' ∨ c = '\'' then
    match Quoted.cut? c r with
    | none => (.broken .syntaxError, [])
    | some (s, r) =>
      match Quoted.decode? s with
      | some s => (.quoted (String.ofList s), r)
      | none => (.broken .badEscape, [])
  else (.mark c, r)

/-- The plain text up to the next opening mark, behind what has been seen of it, the last character
    first. -/
def plain (seen : List Char) : List Char → List Char × List Char
  | [] => (seen.reverse, [])
  | '\x7b' :: c :: r =>
    if c = '\x7b' ∨ c = '%' ∨ c = '#' then (seen.reverse, '\x7b' :: c :: r)
    else plain ('\x7b' :: seen) (c :: r)
  | c :: r => plain (c :: seen) r

/-- The next token outside of outputs and tags. -/
def nextOutside? : List Char → Option (Token × Place × List Char)
  | [] => none
  | '\x7b' :: '\x7b' :: r => some (.openOutput, .output, r)
  | '\x7b' :: '%' :: r => some (.openTag, .tag, r)
  | '\x7b' :: '#' :: r =>
    match Text.findFirst ['#', '\x7d'] r with
    | some (_, r) => some (.text [], .text, r)
    | none => some (.broken .syntaxError, .text, [])
  | s => some (.text (plain [] s).1, .text, (plain [] s).2)

def nextInside? (place : Place) (closing : List Char) (close : Token) (s : List Char) :
    Option (Token × Place × List Char) :=
  let s := s.dropWhile isSpace
  match Text.stripStart closing s, s with
  | some r, _ => some (close, .text, r)
  | none, [] => none
  | none, c :: r => some ((read c r).1, place, (read c r).2)

/-- The next token, where it leaves a reader, and what follows it. -/
def next? : Place → List Char → Option (Token × Place × List Char)
  | .text, s => nextOutside? s
  | .output, s => nextInside? .output ['\x7d', '\x7d'] .closeOutput s
  | .tag, s => nextInside? .tag ['%', '\x7d'] .closeTag s

/-- The tokens of a text.  The number bounds them. -/
def readAll : Nat → Place → List Char → List Token
  | 0, _, _ => []
  | n + 1, place, s =>
    match next? place s with
    | some (t, place, r) => t :: readAll n place r
    | none => []

/-- A template without the line end at its end. -/
def dropLineEnd (s : List Char) : List Char :=
  let s := (Text.stripEnd ['\n'] s).getD s
  (Text.stripEnd ['\r'] s).getD s

def ofText (s : List Char) : List Token :=
  let s := dropLineEnd s
  readAll (s.length + 1) .text s

/-- Why reading cannot go on at some tokens. -/
def failure : List Token → TemplateError
  | .broken e :: _ => e
  | _ => .syntaxError

/-- What follows a token that has to stand at the front. -/
def expect (t : Token) : List Token → Except TemplateError (List Token)
  | [] => .error .syntaxError
  | u :: r => if u = t then .ok r else .error (failure (u :: r))

/-- The word that has to stand at the front, and what follows it. -/
def expectWord : List Token → Except TemplateError (String × List Token)
  | .word w :: r => .ok (w, r)
  | ts => .error (failure ts)

end Token

end RouteServer.View
