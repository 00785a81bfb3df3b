import RouteServer.Route.Template

/-
  **Matching** — which paths a template accepts, and which texts its placeholders capture.

  `Fits` is the meaning: a path fits the segments when it can be cut into one part per segment, each
  of the kind the segment asks for, with at most one slash left over.  Several cuts may exist when
  placeholders touch.  The one that counts makes each capture as long as possible, from left to
  right.

  `captures` computes it without trying cuts one after another.  It goes through the segments from
  the last to the first and keeps, for every place of the path, the best captures from there on: a
  column.  A capture at a place extends the one at the next place if that one exists, and is empty
  otherwise, so a column costs one step per character and a path that does not match costs no more
  than one that does.

  `isMatch` only says whether there is a cut.  It goes forward, and keeps no more than a mark for
  every place that the segments so far can end at.
-/

namespace RouteServer.Route

/-- The characters that a placeholder of this type captures. -/
def Kind.allows : Kind → Char → Bool
  | .int, c => c.isDigit
  | .str, c => c.isAlphanum || c == '_'

/-- The texts that a placeholder of this type captures. -/
def Kind.Captures (k : Kind) (x : List Char) : Prop :=
  (∀ c ∈ x, k.allows c = true) ∧ (k = .str → x ≠ [])

/-- A path is cut into parts that the segments accept, with the captured parts listed. -/
inductive Fits : List Segment → List Char → List (List Char) → Prop
  /-- nothing may follow the last segment but one slash -/
  | done {e : List Char} : e = [] ∨ e = ['/'] → Fits [] e []
  | literal {text : String} {segments : List Segment} {r : List Char} {vs : List (List Char)} :
      Fits segments r vs → Fits (.literal text :: segments) (text.toList ++ r) vs
  | capture {p : Placeholder} {segments : List Segment} {x r : List Char} {vs : List (List Char)} :
      p.kind.Captures x → Fits segments r vs → Fits (.capture p :: segments) (x ++ r) (x :: vs)

/-- The best captures from each place of a path on, the end of the path included. -/
abbrev Column := List (Option (List (List Char)))

/-- The value of a column at its first place. -/
def Column.first (col : Column) : Option (List (List Char)) := col.head?.join

/-- The column behind the last segment: nothing, or a lone slash. -/
def endColumn : List Char → Column
  | [] => [some []]
  | c :: r => (if (c :: r) = ['/'] then some [] else none) :: endColumn r

/-- The column of a text: it has to stand here, and what follows it is `ahead`, which starts as
    many places further on as the text is long. -/
def literalColumn (text : List Char) : List Char → Column → Column
  | [], ahead => [if text.isEmpty then ahead.first else none]
  | c :: r, ahead =>
    (if text.isPrefixOf (c :: r) then ahead.first else none) :: literalColumn text r ahead.tail

/-- The column of a capture that may be empty. -/
def runColumn (allowed : Char → Bool) : List Char → Column → Column
  | [], next => [next.first.map ([] :: ·)]
  | c :: r, next =>
    let rest := runColumn allowed r next.tail
    let here := match allowed c, rest.first with
      | true, some (x :: xs) => some ((c :: x) :: xs)
      | _, _ => next.first.map ([] :: ·)
    here :: rest

/-- The column of a capture that is not empty, from the column of one that may be. -/
def nonemptyColumn (allowed : Char → Bool) : List Char → Column → Column
  | [], _ => [none]
  | c :: r, run =>
    let here := match allowed c, Column.first run.tail with
      | true, some (x :: xs) => some ((c :: x) :: xs)
      | _, _ => none
    here :: nonemptyColumn allowed r run.tail

/-- The column of a segment, from the column of the segments behind it. -/
def Segment.column (path : List Char) (next : Column) : Segment → Column
  | .literal text => literalColumn text.toList path (next.drop text.toList.length)
  | .capture p =>
    let run := runColumn p.kind.allows path next
    match p.kind with
    | .int => run
    | .str => nonemptyColumn p.kind.allows path run

def column (path : List Char) : List Segment → Column
  | [] => endColumn path
  | s :: segments => s.column path (column path segments)

/-- The texts that the placeholders capture from a path, if the whole path fits. -/
def captures (segments : List Segment) (path : List Char) : Option (List (List Char)) :=
  (column path segments).first

/-- The places of a path, its end included, at which the segments read so far can end. -/
abbrev Marks := List Bool

/-- Moves every mark over one character that is allowed. -/
def Marks.advance (path : List Char) (allowed : Char → Bool) (marks : Marks) : Marks :=
  false :: List.zipWith (fun c m => m && allowed c) path marks

/-- Copies every mark over the allowed characters behind it.  `run` says that a copy arrives here
    from the place before. -/
def Marks.spread (allowed : Char → Bool) : List Char → Bool → Marks → Marks
  | c :: r, run, m :: ms => (run || m) :: spread allowed r ((run || m) && allowed c) ms
  | _, run, ms => ms.map (run || ·)

/-- The marks behind a segment, from the marks before it. -/
def Segment.marks (path : List Char) (marks : Marks) : Segment → Marks
  | .literal text => text.toList.foldl (fun ms c => ms.advance path (· == c)) marks
  | .capture p =>
    match p.kind with
    | .int => Marks.spread p.kind.allows path false marks
    | .str => Marks.spread p.kind.allows path false (marks.advance path p.kind.allows)

def isMatch (segments : List Segment) (path : List Char) : Bool :=
  let marks := segments.foldl (Segment.marks path) (true :: path.map fun _ => false)
  let behindSlash := marks.advance path (· == '/')
  marks.getLast? == some true || behindSlash.getLast? == some true

end RouteServer.Route
