import RouteServer.Proofs.Route.Backtracking
import RouteServer.Proofs.Route.RoundTrip
import RouteServer.Route.Pattern

/-
  **A fixed text in front of a template** — it shifts the paths of a route and does nothing else.

  The text may hold braces, as long as it holds no placeholder of its own.  The template behind it
  begins with a slash, and a slash cannot stand inside a placeholder, so none reaches across the
  border (`segmentsOf_front`): the text only makes the first literal longer.  A path then has to
  begin with it and with the slash, and what is captured comes from the rest.
-/

namespace RouteServer.Route

theorem captures_literal (text : String) (segments : List Segment) (s : List Char) :
    captures (.literal text :: segments) s =
      match Text.stripStart text.toList s with
      | some r => captures segments r
      | none => none := by
  simp only [captures_eq_head?_ways, ways]
  cases Text.stripStart text.toList s <;> rfl

theorem segmentsOf_chars_append (front : List Char) (c : Char) (ps : List Piece) :
    segmentsOf (front.map .char ++ .char c :: ps) =
      .literal (String.ofList (front ++ c :: (leadingText ps).1)) ::
        segmentsOf (leadingText ps).2 := by
  cases front with
  | nil => rw [List.map_nil, List.nil_append, segmentsOf, List.nil_append]
  | cons d front =>
    rw [List.map_cons, List.cons_append, segmentsOf, leadingText_chars_append]
    simp only [leadingText, List.cons_append]

theorem not_holdsPlaceholder_slash_cons {s : List Char} (h : ¬ HoldsPlaceholder s) :
    ¬ HoldsPlaceholder ('/' :: s) := by
  rintro ⟨p, hname, hp⟩
  rw [List.infix_cons_iff] at hp
  rcases hp with hstart | hinside
  · rw [Placeholder.print_eq_cons] at hstart
    exact absurd (List.cons_prefix_cons.1 hstart).1 (by decide)
  · exact h ⟨p, hname, hinside⟩

/-- The pieces of a template that begins with a slash, with a text in front of it. -/
theorem piecesOf_front {front : List Char} (hfront : ¬ HoldsPlaceholder front) (r : List Char) :
    piecesOf (front ++ '/' :: r) = front.map .char ++ .char '/' :: piecesOf r := by
  have hslash : piecesOf ('/' :: r) = .char '/' :: piecesOf r := by
    rw [piecesOf, if_neg (by decide)]
  rw [piecesOf_append hfront, hslash]
  intro c hc
  obtain rfl : c = '/' := by simpa [eq_comm] using hc
  decide

theorem segmentsOf_front {front : List Char} (hfront : ¬ HoldsPlaceholder front) (r : List Char) :
    segmentsOf (piecesOf (front ++ '/' :: r)) =
      .literal (String.ofList (front ++ '/' :: (leadingText (piecesOf r)).1)) ::
        segmentsOf (leadingText (piecesOf r)).2 := by
  rw [piecesOf_front hfront, segmentsOf_chars_append]

theorem not_holdsPlaceholder_nil : ¬ HoldsPlaceholder [] := by
  rintro ⟨p, -, hp⟩
  rw [Placeholder.print_eq_cons] at hp
  exact absurd (List.infix_nil.1 hp) (List.cons_ne_nil _ _)

/-- Behind the text in front, the route captures what it captures without that text. -/
theorem captures_front {front : List Char} (hfront : ¬ HoldsPlaceholder front)
    (r path : List Char) :
    captures (segmentsOf (piecesOf (front ++ '/' :: r))) (front ++ path) =
      captures (segmentsOf (piecesOf ('/' :: r))) path := by
  have hplain := segmentsOf_front not_holdsPlaceholder_nil r
  rw [List.nil_append] at hplain
  rw [segmentsOf_front hfront, hplain, captures_literal, captures_literal, String.toList_ofList,
    String.toList_ofList, Text.stripStart_append_append, List.nil_append]

/-- A path that is matched begins with the text in front and with a slash. -/
theorem exists_eq_of_captures_front {front : List Char} (hfront : ¬ HoldsPlaceholder front)
    {r path : List Char} {vs : List (List Char)}
    (h : captures (segmentsOf (piecesOf (front ++ '/' :: r))) path = some vs) :
    ∃ q, path = front ++ '/' :: q := by
  rw [segmentsOf_front hfront, captures_literal, String.toList_ofList] at h
  split at h
  · rename_i rest hrest
    rw [Text.stripStart_eq_some hrest, List.append_assoc, List.cons_append]
    exact ⟨_, rfl⟩
  · cases h

namespace Pattern

variable {front t u : String}

theorem captures_of_front (hfront : ¬ HoldsPlaceholder front.toList)
    (hu : normalize u = front ++ normalize t) (path : String) :
    (ofTemplate u).captures (front ++ path) = (ofTemplate t).captures path := by
  obtain ⟨r, hr⟩ := exists_normalize_eq t
  rw [captures, captures, ofTemplate, ofTemplate, parseTemplate, parseTemplate, hu,
    String.toList_append, String.toList_append, hr, captures_front hfront]

theorem exists_eq_of_captures (hfront : ¬ HoldsPlaceholder front.toList)
    (hu : normalize u = front ++ normalize t) {path : String} {vs : List String}
    (h : (ofTemplate u).captures path = some vs) :
    ∃ p : String, p.toList.head? = some '/' ∧ path = front ++ p := by
  obtain ⟨r, hr⟩ := exists_normalize_eq t
  rw [captures, ofTemplate, parseTemplate, hu, String.toList_append, hr,
    Option.map_eq_some_iff] at h
  obtain ⟨ws, hws, -⟩ := h
  obtain ⟨q, hq⟩ := exists_eq_of_captures_front hfront hws
  refine ⟨String.ofList ('/' :: q), by simp, ?_⟩
  rw [String.ext_iff, hq, String.toList_append, String.toList_ofList]

end Pattern

end RouteServer.Route
