import RouteServer.Text.Alphanumeric
import RouteServer.Text.Split

/-
  **Route templates** — the text in which an application writes a route, such as
  `/user/{id:int}/{name:str}`.

  A template is read as a list of pieces: single characters, and placeholders.  A brace opens a
  placeholder when a word, a colon, a known type tag and a closing brace follow; the closing brace
  is the first one after it and the colon the first one between them.  Any other brace is text, and
  reading goes on right behind it, so in `{{id:int}` the second brace still opens a placeholder.
  Neighbouring characters are then joined, which gives the segments of the template.

  `printSegments` is the way back.  Reading loses nothing: printing the segments of a template
  gives the template again.
-/

namespace RouteServer.Route

/-- The type of a placeholder. -/
inductive Kind where
  /-- zero or more ASCII digits -/
  | int
  /-- one or more ASCII letters, digits and underscores -/
  | str
  deriving DecidableEq, Repr

/-- The type with this tag. -/
def Kind.ofTag? (tag : String) : Option Kind :=
  if tag = "int" then some .int
  else if tag = "str" then some .str
  else none

def Kind.tag : Kind → String
  | .int => "int"
  | .str => "str"

structure Placeholder where
  name : String
  kind : Kind
  deriving DecidableEq, Repr

/-- A part of a template: text that a path has to hold as it is, or a placeholder. -/
inductive Segment where
  | literal (text : String)
  | capture (placeholder : Placeholder)
  deriving DecidableEq, Repr

/-- A placeholder whose type is a word, but none that is known. -/
structure Unsupported where
  name : String
  tag : String
  deriving DecidableEq, Repr

/-- The smallest parts of a template. -/
inductive Piece where
  | char (c : Char)
  | capture (placeholder : Placeholder)
  deriving DecidableEq, Repr

/-- What an opening brace begins. -/
inductive Opening where
  /-- a placeholder, and the text after it -/
  | placeholder (p : Placeholder) (rest : List Char)
  /-- a placeholder of an unknown type, which stays text -/
  | unsupported (u : Unsupported)
  /-- text -/
  | text

/-- Looks at the text behind an opening brace. -/
def Opening.ofText (s : List Char) : Opening :=
  match Text.splitFirst '}' s with
  | none => .text
  | some (inside, rest) =>
    match Text.splitFirst ':' inside with
    | none => .text
    | some (name, tag) =>
      if !Text.isWord name then .text
      else match Kind.ofTag? (String.ofList tag) with
        | some kind => .placeholder ⟨String.ofList name, kind⟩ rest
        | none =>
          if Text.isWord tag then .unsupported ⟨String.ofList name, String.ofList tag⟩ else .text

/-- A placeholder ends inside the text it was read from. -/
theorem Opening.length_lt_of_placeholder {s rest : List Char} {p : Placeholder}
    (h : Opening.ofText s = .placeholder p rest) : rest.length < s.length := by
  simp only [Opening.ofText] at h
  split at h
  · simp at h
  · rename_i inside r hs
    obtain ⟨rfl, -⟩ := Text.splitFirst_eq_some hs
    split at h
    · simp at h
    · split at h
      · simp at h
      · split at h
        · simp only [Opening.placeholder.injEq] at h
          simp [← h.2]
          omega
        · split at h <;> simp at h

def piecesOf : List Char → List Piece
  | [] => []
  | c :: r =>
    if c = '{' then
      match _h : Opening.ofText r with
      | .placeholder p rest => .capture p :: piecesOf rest
      | _ => .char c :: piecesOf r
    else .char c :: piecesOf r
termination_by s => s.length
decreasing_by
  · exact Nat.lt_succ_of_lt (Opening.length_lt_of_placeholder _h)
  · simp
  · simp

/-- The placeholders of an unknown type, in the order of their opening braces. -/
def unsupportedOf : List Char → List Unsupported
  | [] => []
  | c :: r =>
    if c = '{' then
      match _h : Opening.ofText r with
      | .placeholder _ rest => unsupportedOf rest
      | .unsupported u => u :: unsupportedOf r
      | .text => unsupportedOf r
    else unsupportedOf r
termination_by s => s.length
decreasing_by
  · exact Nat.lt_succ_of_lt (Opening.length_lt_of_placeholder _h)
  all_goals simp

/-- The characters at the front of a list of pieces, and the pieces from the first placeholder
    on. -/
def leadingText : List Piece → List Char × List Piece
  | .char c :: r => (c :: (leadingText r).1, (leadingText r).2)
  | r => ([], r)

theorem leadingText_length_le (ps : List Piece) : (leadingText ps).2.length ≤ ps.length := by
  induction ps with
  | nil => simp [leadingText]
  | cons p r ih =>
    cases p with
    | char c => simp only [leadingText, List.length_cons]; omega
    | capture q => simp [leadingText]

/-- Joins neighbouring characters into literals. -/
def segmentsOf : List Piece → List Segment
  | [] => []
  | .capture p :: r => .capture p :: segmentsOf r
  | .char c :: r =>
    have := leadingText_length_le r
    .literal (String.ofList (c :: (leadingText r).1)) :: segmentsOf (leadingText r).2
termination_by ps => ps.length
decreasing_by all_goals (simp_all; try omega)

def parseTemplate (template : String) : List Segment := segmentsOf (piecesOf template.toList)

/-- The placeholders of a template that stay text because their type is unknown. -/
def unsupported (template : String) : List Unsupported := unsupportedOf template.toList

def Placeholder.print (p : Placeholder) : List Char :=
  '{' :: p.name.toList ++ ':' :: p.kind.tag.toList ++ ['}']

def Segment.print : Segment → List Char
  | .literal text => text.toList
  | .capture p => p.print

/-- The template that the segments were read from. -/
def printSegments (segments : List Segment) : String :=
  String.ofList (segments.flatMap Segment.print)

/-- The placeholders among the segments, in order. -/
def placeholders (segments : List Segment) : List Placeholder :=
  segments.filterMap fun
    | .literal _ => none
    | .capture p => some p

end RouteServer.Route
