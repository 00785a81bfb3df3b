import RouteServer.Proofs.Route.TemplateText
import Mathlib.Data.List.Chain

/-
  **Reading and printing templates** — the two undo each other.

  The segments that reading can give are the canonical ones: no literal is empty, holds a
  placeholder or stands beside another literal, and the names of the captures are words.  On these,
  reading and printing are inverse.  Reading also finds the placeholders of an unknown type, each
  where it stands, from left to right.
-/

namespace RouteServer.Route

/-! ### Pieces as text -/

def Piece.print : Piece → List Char
  | .char c => [c]
  | .capture p => p.print

/-- The pieces that a segment is joined from. -/
def Segment.pieces : Segment → List Piece
  | .literal text => text.toList.map .char
  | .capture p => [.capture p]

theorem flatMap_print_piecesOf (s : List Char) : (piecesOf s).flatMap Piece.print = s := by
  induction s using template_induction with
  | nil => rw [piecesOf, List.flatMap_nil]
  | placeholder p rest hname ih =>
    rw [piecesOf_placeholder hname, List.flatMap_cons, ih]
    rfl
  | char c r hplain ih =>
    rw [piecesOf_char hplain, List.flatMap_cons, ih]
    rfl

theorem flatMap_print_pieces (segment : Segment) :
    segment.pieces.flatMap Piece.print = segment.print := by
  cases segment with
  | literal text => simp [Segment.pieces, Segment.print, Piece.print, List.flatMap_map]
  | capture p => simp [Segment.pieces, Segment.print, Piece.print]

theorem isWord_of_capture_mem_piecesOf {s : List Char} {p : Placeholder}
    (h : .capture p ∈ piecesOf s) : Text.isWord p.name.toList = true := by
  induction s using template_induction with
  | nil => simp [piecesOf] at h
  | placeholder q rest hname ih =>
    rw [piecesOf_placeholder hname, List.mem_cons, Piece.capture.injEq] at h
    rcases h with rfl | h
    · exact hname
    · exact ih h
  | char c r hplain ih =>
    rw [piecesOf_char hplain, List.mem_cons] at h
    rcases h with h | h
    · cases h
    · exact ih h

/-- What follows some pieces are the pieces of the rest of the template. -/
theorem exists_piecesOf_of_append {before after : List Piece} {s : List Char}
    (h : piecesOf s = before ++ after) : ∃ r, piecesOf r = after := by
  induction before generalizing s with
  | nil => exact ⟨s, h⟩
  | cons piece before ih =>
    cases s using template_induction with
    | nil => simp [piecesOf] at h
    | placeholder p rest hname _ =>
      rw [piecesOf_placeholder hname] at h
      exact ih (List.cons.inj h).2
    | char c r hplain _ =>
      rw [piecesOf_char hplain] at h
      exact ih (List.cons.inj h).2

/-- Pieces that are characters are the text at the front of the template. -/
theorem eq_append_of_piecesOf_chars {cs s : List Char} {after : List Piece}
    (h : piecesOf s = cs.map .char ++ after) : ∃ r, s = cs ++ r ∧ piecesOf r = after := by
  induction cs generalizing s with
  | nil => exact ⟨s, rfl, h⟩
  | cons d cs ih =>
    cases s using template_induction with
    | nil => simp [piecesOf] at h
    | placeholder p rest hname _ =>
      rw [piecesOf_placeholder hname] at h
      cases (List.cons.inj h).1
    | char c r hplain _ =>
      rw [piecesOf_char hplain] at h
      obtain ⟨hchar, hrest⟩ := List.cons.inj h
      obtain ⟨r', rfl, hafter⟩ := ih hrest
      cases hchar
      exact ⟨r', rfl, hafter⟩

def HoldsPlaceholder (s : List Char) : Prop :=
  ∃ p : Placeholder, Text.isWord p.name.toList = true ∧ p.print <:+: s

theorem not_holdsPlaceholder_of_piecesOf {cs s : List Char} {before after : List Piece}
    (h : piecesOf s = before ++ (cs.map .char ++ after)) : ¬ HoldsPlaceholder cs := by
  rintro ⟨p, hname, a, b, rfl⟩
  obtain ⟨r, hr⟩ := exists_piecesOf_of_append h
  rw [List.map_append, List.map_append, List.append_assoc, List.append_assoc] at hr
  obtain ⟨r', -, hr'⟩ := eq_append_of_piecesOf_chars hr
  obtain ⟨r'', rfl, -⟩ := eq_append_of_piecesOf_chars hr'
  rw [piecesOf_placeholder hname, Placeholder.print_eq_cons] at hr'
  cases (List.cons.inj hr').1

/-! ### Joining pieces into segments -/

/-- At least one of two neighbours is a capture. -/
def Segment.Apart : Segment → Segment → Prop
  | .literal _, .literal _ => False
  | _, _ => True

theorem leadingText_append (ps : List Piece) :
    (leadingText ps).1.map .char ++ (leadingText ps).2 = ps := by
  induction ps with
  | nil => rfl
  | cons piece ps ih =>
    cases piece with
    | char c => simpa [leadingText] using ih
    | capture p => rfl

theorem flatMap_pieces_segmentsOf (ps : List Piece) :
    (segmentsOf ps).flatMap Segment.pieces = ps := by
  induction ps using segmentsOf.induct with
  | case1 => rw [segmentsOf, List.flatMap_nil]
  | case2 p r ih =>
    rw [segmentsOf, List.flatMap_cons, ih]
    rfl
  | case3 c r _ ih =>
    rw [segmentsOf, List.flatMap_cons, ih, Segment.pieces, String.toList_ofList, List.map_cons,
      List.cons_append, leadingText_append]

/-- Behind the characters at the front, no literal can begin. -/
theorem head?_segmentsOf_leadingText (ps : List Piece) (text : String) :
    (segmentsOf (leadingText ps).2).head? ≠ some (.literal text) := by
  induction ps with
  | nil => simp [leadingText, segmentsOf]
  | cons piece ps ih =>
    cases piece with
    | char c => exact ih
    | capture p => simp [leadingText, segmentsOf]

theorem ne_empty_of_mem_segmentsOf {ps : List Piece} {text : String}
    (h : .literal text ∈ segmentsOf ps) : text ≠ "" := by
  induction ps using segmentsOf.induct with
  | case1 => simp [segmentsOf] at h
  | case2 p r ih =>
    rw [segmentsOf, List.mem_cons] at h
    rcases h with h | h
    · cases h
    · exact ih h
  | case3 c r _ ih =>
    rw [segmentsOf, List.mem_cons, Segment.literal.injEq] at h
    rcases h with rfl | h
    · intro hempty
      simpa using congrArg String.toList hempty
    · exact ih h

theorem segmentsOf_isChain (ps : List Piece) : (segmentsOf ps).IsChain Segment.Apart := by
  induction ps using segmentsOf.induct with
  | case1 => rw [segmentsOf]; exact .nil
  | case2 p r ih =>
    rw [segmentsOf]
    cases hr : segmentsOf r with
    | nil => exact .singleton _
    | cons segment segments => exact .cons_cons trivial (hr ▸ ih)
  | case3 c r _ ih =>
    rw [segmentsOf]
    cases hr : segmentsOf (leadingText r).2 with
    | nil => exact .singleton _
    | cons segment segments =>
      refine .cons_cons ?_ (hr ▸ ih)
      cases segment with
      | literal text => exact absurd (by rw [hr]; rfl) (head?_segmentsOf_leadingText r text)
      | capture p => exact trivial

theorem leadingText_chars_append (cs : List Char) (ps : List Piece) :
    leadingText (cs.map .char ++ ps) = (cs ++ (leadingText ps).1, (leadingText ps).2) := by
  induction cs with
  | nil => rfl
  | cons c cs ih => simp [leadingText, ih]

/-- Joining finds the segments again, if no literal is empty and no two are neighbours. -/
theorem segmentsOf_flatMap_pieces {segments : List Segment}
    (hne : ∀ text, .literal text ∈ segments → text ≠ "") (hapart : segments.IsChain Segment.Apart) :
    segmentsOf (segments.flatMap Segment.pieces) = segments := by
  induction segments with
  | nil => rw [List.flatMap_nil, segmentsOf]
  | cons segment segments ih =>
    have hrest := ih (fun text htext => hne text (List.mem_cons_of_mem _ htext)) hapart.tail
    rw [List.flatMap_cons]
    cases segment with
    | capture p => rw [Segment.pieces, List.singleton_append, segmentsOf, hrest]
    | literal text =>
      have hfront : leadingText (segments.flatMap Segment.pieces) =
          ([], segments.flatMap Segment.pieces) := by
        cases segments with
        | nil => rfl
        | cons next segments =>
          cases next with
          | literal text' => exact absurd hapart.rel id
          | capture p => rfl
      cases htext : text.toList with
      | nil => exact absurd (String.toList_eq_nil_iff.1 htext) (hne _ List.mem_cons_self)
      | cons c t =>
        rw [Segment.pieces, htext, List.map_cons, List.cons_append, segmentsOf,
          leadingText_chars_append, hfront, List.append_nil, hrest, ← htext, String.ofList_toList]

/-! ### Canonical segments -/

/-- The segments that a template can have. -/
structure Canonical (segments : List Segment) : Prop where
  literal : ∀ text, .literal text ∈ segments → text ≠ "" ∧ ¬ HoldsPlaceholder text.toList
  capture : ∀ p, .capture p ∈ segments → Text.isWord p.name.toList = true
  apart : segments.IsChain Segment.Apart

theorem Canonical.tail {segment : Segment} {segments : List Segment}
    (h : Canonical (segment :: segments)) : Canonical segments :=
  ⟨fun text htext => h.literal text (List.mem_cons_of_mem _ htext),
    fun p hp => h.capture p (List.mem_cons_of_mem _ hp), h.apart.tail⟩

theorem canonical_parseTemplate (t : String) : Canonical (parseTemplate t) := by
  constructor
  · intro text htext
    refine ⟨ne_empty_of_mem_segmentsOf htext, ?_⟩
    obtain ⟨before, after, hsplit⟩ := List.append_of_mem htext
    have hpieces := flatMap_pieces_segmentsOf (piecesOf t.toList)
    rw [← parseTemplate, hsplit, List.flatMap_append, List.flatMap_cons] at hpieces
    exact not_holdsPlaceholder_of_piecesOf hpieces.symm
  · intro p hp
    apply isWord_of_capture_mem_piecesOf (s := t.toList)
    rw [← flatMap_pieces_segmentsOf (piecesOf t.toList)]
    exact List.mem_flatMap.2 ⟨_, hp, List.mem_singleton_self _⟩
  · exact segmentsOf_isChain _

theorem printSegments_parseTemplate (t : String) : printSegments (parseTemplate t) = t := by
  have hprint : (parseTemplate t).flatMap Segment.print = t.toList := by
    calc (parseTemplate t).flatMap Segment.print
        = ((parseTemplate t).flatMap Segment.pieces).flatMap Piece.print := by
          simp only [List.flatMap_assoc, flatMap_print_pieces]
      _ = (piecesOf t.toList).flatMap Piece.print := by
          rw [parseTemplate, flatMap_pieces_segmentsOf]
      _ = t.toList := flatMap_print_piecesOf _
  rw [printSegments, hprint, String.ofList_toList]

/-- A text without a placeholder is read as its characters, if what follows it is nothing or begins
    with a character that a placeholder in front of it would have to hold. -/
theorem piecesOf_append {text rest : List Char} (htext : ¬ HoldsPlaceholder text)
    (hrest : ∀ c ∈ rest.head?, EndsPlaceholders c) :
    piecesOf (text ++ rest) = text.map .char ++ piecesOf rest := by
  induction text with
  | nil => rfl
  | cons c t ih =>
    have hplain : PlainFront (c :: t ++ rest) := by
      rintro p hname ⟨r, hr⟩
      rcases List.append_eq_append_iff.1 hr with ⟨x, hx, -⟩ | ⟨x, hx, hr'⟩
      · exact htext ⟨p, hname, [], x, hx.symm⟩
      · cases x with
        | nil => exact htext ⟨p, hname, [], [], by simpa using hx⟩
        | cons d x =>
          have hd : EndsPlaceholders d := hrest d (by simp [hr'])
          apply Placeholder.not_mem_tail_print hname hd
          simp [hx]
    have ht : ¬ HoldsPlaceholder t := by
      rintro ⟨p, hname, hp⟩
      exact htext ⟨p, hname, List.infix_cons hp⟩
    rw [List.cons_append] at hplain ⊢
    rw [piecesOf_char hplain, ih ht]
    rfl

theorem piecesOf_flatMap_print {segments : List Segment} (h : Canonical segments) :
    piecesOf (segments.flatMap Segment.print) = segments.flatMap Segment.pieces := by
  induction segments with
  | nil => rw [List.flatMap_nil, List.flatMap_nil, piecesOf]
  | cons segment segments ih =>
    rw [List.flatMap_cons, List.flatMap_cons, ← ih h.tail]
    cases segment with
    | capture p => exact piecesOf_placeholder (h.capture p List.mem_cons_self) _
    | literal text =>
      refine piecesOf_append (h.literal text List.mem_cons_self).2 ?_
      cases segments with
      | nil => simp
      | cons next segments =>
        cases next with
        | literal text' => exact absurd h.apart.rel id
        | capture p =>
          intro c hc
          obtain rfl : c = '{' := by simpa [Segment.print, Placeholder.print, eq_comm] using hc
          decide

theorem parseTemplate_printSegments {segments : List Segment} (h : Canonical segments) :
    parseTemplate (printSegments segments) = segments := by
  rw [parseTemplate, printSegments, String.toList_ofList, piecesOf_flatMap_print h]
  exact segmentsOf_flatMap_pieces (fun text htext => (h.literal text htext).1) h.apart

/-! ### Placeholders of an unknown type -/

/-- What was found are the placeholders of an unknown type in a text, each at its own place, from
    left to right. -/
def FindsUnsupported (s : List Char) (found : List Unsupported) : Prop :=
  ∃ places : List (Nat × Unsupported), places.map Prod.snd = found ∧
    places.Pairwise (fun a b => a.1 < b.1) ∧
    ∀ i u, (i, u) ∈ places ↔ u.Begins (s.drop i)

namespace FindsUnsupported

theorem nil : FindsUnsupported [] [] := by
  refine ⟨[], rfl, .nil, fun i u => ?_⟩
  simp [Unsupported.Begins, Unsupported.print]

theorem mem_shifted_iff {places : List (Nat × Unsupported)} {i : Nat} {u : Unsupported} :
    (i, u) ∈ places.map (fun m => (m.1 + 1, m.2)) ↔ ∃ j, i = j + 1 ∧ (j, u) ∈ places := by
  simp only [List.mem_map, Prod.mk.injEq, Prod.exists]
  constructor
  · rintro ⟨j, v, hmem, rfl, rfl⟩
    exact ⟨j, rfl, hmem⟩
  · rintro ⟨j, rfl, hmem⟩
    exact ⟨j, u, hmem, rfl, rfl⟩

theorem skip {c : Char} {r : List Char} {found : List Unsupported} (h : FindsUnsupported r found)
    (hfront : ∀ u : Unsupported, ¬ u.Begins (c :: r)) : FindsUnsupported (c :: r) found := by
  obtain ⟨places, hfound, hsorted, hplaces⟩ := h
  refine ⟨places.map fun m => (m.1 + 1, m.2), ?_, ?_, fun i u => ?_⟩
  · simpa [Function.comp_def] using hfound
  · rw [List.pairwise_map]
    exact hsorted.imp fun hlt => Nat.succ_lt_succ hlt
  · rw [mem_shifted_iff]
    cases i with
    | zero => simpa using hfront u
    | succ i => simp [hplaces]

theorem cons {c : Char} {r : List Char} {found : List Unsupported} {u : Unsupported}
    (h : FindsUnsupported r found) (hfront : u.Begins (c :: r)) :
    FindsUnsupported (c :: r) (u :: found) := by
  obtain ⟨places, hfound, hsorted, hplaces⟩ := h
  refine ⟨(0, u) :: places.map fun m => (m.1 + 1, m.2), ?_, ?_, fun i v => ?_⟩
  · simpa [Function.comp_def] using hfound
  · rw [List.pairwise_cons, List.pairwise_map]
    refine ⟨fun m hm => ?_, hsorted.imp fun hlt => Nat.succ_lt_succ hlt⟩
    obtain ⟨j, hj, -⟩ := mem_shifted_iff.1 hm
    rw [hj]
    exact Nat.succ_pos j
  · rw [List.mem_cons, mem_shifted_iff]
    cases i with
    | zero =>
      simp only [Prod.mk.injEq, true_and, List.drop_zero]
      constructor
      · rintro (rfl | ⟨j, hj, -⟩)
        · exact hfront
        · cases hj
      · intro hv
        -- only one thing can begin at a brace
        obtain rfl := Unsupported.open_of_begins hfront
        have heq := (ofText_eq_unsupported_iff.2 hfront).symm.trans
          (ofText_eq_unsupported_iff.2 hv)
        exact Or.inl (Opening.unsupported.inj heq).symm
    | succ i => simp [hplaces]

/-- Nothing begins inside the text of a placeholder. -/
theorem placeholder {p : Placeholder} (hname : Text.isWord p.name.toList = true)
    {rest : List Char} {found : List Unsupported} (h : FindsUnsupported rest found) :
    FindsUnsupported (p.print ++ rest) found := by
  have htail : ∀ x : List Char, '{' ∉ x → FindsUnsupported (x ++ rest) found := by
    intro x hx
    induction x with
    | nil => exact h
    | cons c x ih =>
      refine (ih fun hmem => hx (List.mem_cons_of_mem _ hmem)).skip fun u hu => hx ?_
      rw [Unsupported.open_of_begins hu]
      exact List.mem_cons_self
  have hfront := fun u => Unsupported.not_begins_placeholder hname u rest
  have hinside := htail _ (Placeholder.open_not_mem_tail_print hname)
  rw [Placeholder.print_eq_cons] at hfront hinside ⊢
  exact hinside.skip hfront

end FindsUnsupported

theorem findsUnsupported_unsupportedOf (s : List Char) :
    FindsUnsupported s (unsupportedOf s) := by
  induction s using template_induction with
  | nil =>
    rw [unsupportedOf]
    exact .nil
  | placeholder p rest hname ih =>
    rw [unsupportedOf_placeholder hname]
    exact ih.placeholder hname
  | char c r hplain ih =>
    by_cases hfront : ∃ u : Unsupported, u.Begins (c :: r)
    · obtain ⟨u, hu⟩ := hfront
      rw [unsupportedOf_of_begins hu]
      exact ih.cons hu
    · have hnone : ∀ u : Unsupported, ¬ u.Begins (c :: r) := fun u hu => hfront ⟨u, hu⟩
      rw [unsupportedOf_char hplain hnone]
      exact ih.skip hnone

/-! ### The two directions together -/

/-- Templates and canonical segments correspond: reading and printing are inverse to each other,
    and reading finds every placeholder of an unknown type. -/
theorem parseTemplate_printSegments_inverse :
    (∀ t : String, Canonical (parseTemplate t) ∧ printSegments (parseTemplate t) = t ∧
      FindsUnsupported t.toList (unsupported t)) ∧
    (∀ segments : List Segment, Canonical segments →
      parseTemplate (printSegments segments) = segments) :=
  ⟨fun t => ⟨canonical_parseTemplate t, printSegments_parseTemplate t,
      findsUnsupported_unsupportedOf t.toList⟩,
    fun _ h => parseTemplate_printSegments h⟩

/-- A brace that stays text may stand right in front of a placeholder. -/
theorem parseTemplate_printSegments_nested :
    Canonical [.literal "/a/\x7b", .capture ⟨"id", .int⟩, .literal "\x7d"] ∧
    parseTemplate (printSegments [.literal "/a/\x7b", .capture ⟨"id", .int⟩, .literal "\x7d"]) =
      [.literal "/a/\x7b", .capture ⟨"id", .int⟩, .literal "\x7d"] := by
  obtain ⟨hread, hprint⟩ := parseTemplate_printSegments_inverse
  have hsegments : parseTemplate "/a/\x7b\x7bid:int\x7d\x7d" =
      [.literal "/a/\x7b", .capture ⟨"id", .int⟩, .literal "\x7d"] := by
    decide +kernel
  have hcanonical := (hread "/a/\x7b\x7bid:int\x7d\x7d").1
  rw [hsegments] at hcanonical
  exact ⟨hcanonical, hprint _ hcanonical⟩

end RouteServer.Route
