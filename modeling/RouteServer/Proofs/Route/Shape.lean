import RouteServer.Proofs.Route.History
import RouteServer.Proofs.Route.Regex
import RouteServer.Proofs.Route.RoundTrip

/-
  **The shape of a route** — what is left of it when its placeholders lose their names.

  The expression of a route is made from its shape alone, and the shape can be read back from it
  (`shapeOf?_expression`): a literal is written with its special characters escaped, so no text in
  it, not even that of a group, is taken for anything but characters.  The characters between two
  groups then are one literal again, because the segments of a template are canonical.  So two
  routes are equivalent exactly when they have one shape, and they capture the same texts.
-/

namespace RouteServer.Route

def Segment.unnamed : Segment → Segment
  | .literal text => .literal text
  | .capture p => .capture { p with name := "" }

/-- The literals of a route and the types of its placeholders, in order. -/
def shape (segments : List Segment) : List Segment := segments.map Segment.unnamed

namespace Regex

/-- The piece of a template that an item was written for, without a name. -/
def Item.piece? : Item → Option Piece
  | .char c => some (.char c)
  | .group _ nonempty => some (.capture ⟨"", if nonempty then .str else .int⟩)
  | _ => none

/-- The shape that the expression of a route tells. -/
def shapeOf? (source : String) : Option (List Segment) :=
  (readItems source.toList).map fun items => segmentsOf (items.filterMap Item.piece?)

end Regex

/-! ### From the shape to the expression -/

theorem Segment.expression_unnamed (segment : Segment) :
    segment.unnamed.expression = segment.expression := by
  cases segment <;> rfl

theorem Pattern.expression_eq_of_shape_eq {p q : Pattern}
    (h : shape p.segments = shape q.segments) : p.expression = q.expression := by
  have hwritten : ∀ segments : List Segment,
      segments.flatMap Segment.expression = (shape segments).flatMap Segment.expression := by
    intro segments
    simp only [shape, List.flatMap_map, Segment.expression_unnamed]
  rw [Pattern.expression, Pattern.expression, hwritten p.segments, hwritten q.segments, h]

/-! ### From the expression to the shape -/

theorem filterMap_piece?_itemsOf (segment : Segment) :
    (Regex.itemsOf segment).filterMap Regex.Item.piece? = segment.unnamed.pieces := by
  cases segment with
  | literal text =>
    rw [Regex.itemsOf, List.filterMap_map]
    exact congrFun List.filterMap_eq_map text.toList
  | capture p =>
    obtain ⟨name, kind⟩ := p
    cases kind <;> rfl

theorem filterMap_piece?_routeItems (segments : List Segment) :
    (Regex.routeItems segments).filterMap Regex.Item.piece? =
      (shape segments).flatMap Segment.pieces := by
  have hends : ([.optional '/', .stop] : List Regex.Item).filterMap Regex.Item.piece? = [] := rfl
  rw [Regex.routeItems, List.filterMap_append, hends, List.append_nil,
    List.filterMap_cons_none rfl, List.filterMap_flatMap, shape, List.flatMap_map]
  simp only [filterMap_piece?_itemsOf]

theorem segmentsOf_pieces_shape {segments : List Segment} (h : Canonical segments) :
    segmentsOf ((shape segments).flatMap Segment.pieces) = shape segments := by
  refine segmentsOf_flatMap_pieces ?_ ?_
  · intro text htext
    obtain ⟨segment, hmem, hsegment⟩ := List.mem_map.1 htext
    cases segment with
    | literal text' =>
      cases hsegment
      exact (h.literal text hmem).1
    | capture p => cases hsegment
  · rw [shape, List.isChain_map]
    refine h.apart.imp fun a b hab => ?_
    cases a with
    | literal s =>
      cases b with
      | literal t => exact hab
      | capture q => trivial
    | capture p => trivial

theorem shapeOf?_expression {p : Pattern} (h : Canonical p.segments) :
    Regex.shapeOf? p.expression = some (shape p.segments) := by
  rw [Regex.shapeOf?, Regex.readItems_expression, Option.map_some, filterMap_piece?_routeItems,
    segmentsOf_pieces_shape h]

theorem canonical_of_compile {t : String} {p : Pattern} (h : compile t = .ok p) :
    Canonical p.segments := by
  rw [eq_ofTemplate_of_compile h]
  exact canonical_parseTemplate _

/-- Routes are equivalent exactly when they have one shape, for the expression of a route tells its
    shape, whatever its literals hold.  Equivalent routes capture the same texts from every path. -/
theorem equivalent_iff_shape_eq (a b : String) (p q : Pattern) (ha : compile a = .ok p)
    (hb : compile b = .ok q) :
    (p.equivalent q = true ↔ shape p.segments = shape q.segments) ∧
    Regex.shapeOf? p.expression = some (shape p.segments) ∧
    (p.equivalent q = true → ∀ path, p.captures path = q.captures path) := by
  have hp := shapeOf?_expression (canonical_of_compile ha)
  have hq := shapeOf?_expression (canonical_of_compile hb)
  have hexpression : p.equivalent q = true ↔ p.expression = q.expression := by
    rw [Pattern.equivalent, beq_iff_eq]
  refine ⟨⟨fun h => ?_, fun h => ?_⟩, hp, fun h path => ?_⟩
  · rw [hexpression.1 h, hq] at hp
    exact (Option.some.inj hp).symm
  · exact hexpression.2 (Pattern.expression_eq_of_shape_eq h)
  · rw [Regex.captures_eq_regex p, Regex.captures_eq_regex q, hexpression.1 h]

/-- A literal that spells out the group of a placeholder is no placeholder. -/
theorem equivalent_iff_shape_eq_spelled :
    compile "a/([0-9]*)\\/\x7bid:int\x7d" = .ok (.ofTemplate "a/([0-9]*)\\/\x7bid:int\x7d") ∧
    compile "/a/\x7bn:int\x7d\\/\x7bid:int\x7d" =
      .ok (.ofTemplate "/a/\x7bn:int\x7d\\/\x7bid:int\x7d") ∧
    ¬ (Pattern.ofTemplate "a/([0-9]*)\\/\x7bid:int\x7d").equivalent
      (.ofTemplate "/a/\x7bn:int\x7d\\/\x7bid:int\x7d") = true ∧
    (Pattern.ofTemplate "a/([0-9]*)\\/\x7bid:int\x7d").equivalent
      (.ofTemplate "/a/([0-9]*)\\/\x7bother:int\x7d") = true := by
  have hspelled : compile "a/([0-9]*)\\/\x7bid:int\x7d" =
      .ok (.ofTemplate "a/([0-9]*)\\/\x7bid:int\x7d") := by
    decide +kernel
  have hplaceholder : compile "/a/\x7bn:int\x7d\\/\x7bid:int\x7d" =
      .ok (.ofTemplate "/a/\x7bn:int\x7d\\/\x7bid:int\x7d") := by
    decide +kernel
  have hrenamed : compile "/a/([0-9]*)\\/\x7bother:int\x7d" =
      .ok (.ofTemplate "/a/([0-9]*)\\/\x7bother:int\x7d") := by
    decide +kernel
  refine ⟨hspelled, hplaceholder, ?_, ?_⟩
  · rw [(equivalent_iff_shape_eq _ _ _ _ hspelled hplaceholder).1]
    decide +kernel
  · rw [(equivalent_iff_shape_eq _ _ _ _ hspelled hrenamed).1]
    decide +kernel

end RouteServer.Route
