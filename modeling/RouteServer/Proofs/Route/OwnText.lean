import RouteServer.Proofs.Route.Matching
import RouteServer.Proofs.Route.RoundTrip

/-
  **Templates as paths** — which routes match the text of their own template.

  A route without placeholders matches its text, with at most a slash behind it, and no other path.
  A route with placeholders never matches its text: each placeholder is written with a brace, no
  capture can hold one, and the literals have only their own.
-/

namespace RouteServer.Route

theorem flatMap_print_parseTemplate (t : String) :
    (parseTemplate t).flatMap Segment.print = t.toList := by
  rw [← String.toList_ofList (l := (parseTemplate t).flatMap Segment.print), ← printSegments,
    printSegments_parseTemplate]

/-! ### Routes without placeholders -/

theorem fits_iff_of_placeholders_eq_nil {segments : List Segment} (h : placeholders segments = [])
    {s : List Char} {vs : List (List Char)} :
    Fits segments s vs ↔
      vs = [] ∧ ∃ e, (e = [] ∨ e = ['/']) ∧ s = segments.flatMap Segment.print ++ e := by
  induction segments generalizing s with
  | nil =>
    constructor
    · intro hfits
      cases hfits with
      | done he => exact ⟨rfl, s, he, rfl⟩
    · rintro ⟨rfl, e, he, rfl⟩
      exact .done he
  | cons segment segments ih =>
    cases segment with
    | capture p => cases h
    | literal text =>
      constructor
      · intro hfits
        cases hfits with
        | literal hrest =>
          obtain ⟨hvs, e, he, rfl⟩ := (ih h).1 hrest
          refine ⟨hvs, e, he, ?_⟩
          rw [List.flatMap_cons, Segment.print, List.append_assoc]
      · rintro ⟨hvs, e, he, rfl⟩
        rw [List.flatMap_cons, Segment.print, List.append_assoc]
        exact .literal ((ih h).2 ⟨hvs, e, he, rfl⟩)

/-- A route without placeholders matches its own text, with or without a slash behind it. -/
theorem Pattern.isSome_captures_iff_of_plain {p : Pattern}
    (hsegments : p.segments = parseTemplate p.template) (hplain : p.params = []) {path : String} :
    (p.captures path).isSome = true ↔ path = p.template ∨ path = p.template ++ "/" := by
  have hprint : p.segments.flatMap Segment.print = p.template.toList := by
    rw [hsegments, flatMap_print_parseTemplate]
  rw [Pattern.isSome_captures_iff]
  simp only [fits_iff_of_placeholders_eq_nil hplain, hprint, ← String.toList_inj,
    String.toList_append]
  constructor
  · rintro ⟨vs, -, e, rfl | rfl, hpath⟩
    · exact Or.inl (by simpa using hpath)
    · exact Or.inr hpath
  · rintro (hpath | hpath)
    · exact ⟨[], rfl, [], Or.inl rfl, by simpa using hpath⟩
    · exact ⟨[], rfl, ['/'], Or.inr rfl, hpath⟩

/-! ### Routes with placeholders -/

theorem Kind.Captures.open_not_mem {k : Kind} {x : List Char} (h : k.Captures x) : '{' ∉ x := by
  intro hmem
  have hallowed := h.1 _ hmem
  cases k <;> cases hallowed

theorem Placeholder.count_open_print {p : Placeholder} (hname : Text.isWord p.name.toList = true) :
    p.print.count '{' = 1 := by
  have htail := List.count_eq_zero_of_not_mem (Placeholder.open_not_mem_tail_print hname)
  rw [Placeholder.print_eq_cons, List.tail_cons] at htail
  rw [Placeholder.print_eq_cons, List.count_cons_self, htail]

/-- A path that fits has the braces of the literals, so it lacks one for each placeholder. -/
theorem count_open_of_fits {segments : List Segment} {s : List Char} {vs : List (List Char)}
    (hnames : ∀ p, .capture p ∈ segments → Text.isWord p.name.toList = true)
    (h : Fits segments s vs) :
    s.count '{' + (placeholders segments).length =
      (segments.flatMap Segment.print).count '{' := by
  induction h with
  | done he => rcases he with rfl | rfl <;> rfl
  | @literal text segments r vs _ ih =>
    have hrest := ih fun p hp => hnames p (List.mem_cons_of_mem _ hp)
    rw [List.flatMap_cons, List.count_append, List.count_append, Segment.print, ← hrest,
      Nat.add_assoc]
    rfl
  | @capture p segments x r vs hx _ ih =>
    have hrest := ih fun q hq => hnames q (List.mem_cons_of_mem _ hq)
    have hprint := Placeholder.count_open_print (hnames p List.mem_cons_self)
    have hcount : (placeholders (.capture p :: segments)).length =
        (placeholders segments).length + 1 := rfl
    rw [List.flatMap_cons, List.count_append, List.count_append, Segment.print, hprint,
      List.count_eq_zero_of_not_mem hx.open_not_mem, hcount]
    omega

/-- A route matches the text of its template just when it has no placeholders. -/
theorem Pattern.isSome_captures_template_iff {p : Pattern}
    (hsegments : p.segments = parseTemplate p.template) :
    (p.captures p.template).isSome = true ↔ p.params = [] := by
  constructor
  · intro hsome
    obtain ⟨vs, hfits⟩ := Pattern.isSome_captures_iff.1 hsome
    have hnames : ∀ q, .capture q ∈ p.segments → Text.isWord q.name.toList = true := by
      rw [hsegments]
      exact (canonical_parseTemplate p.template).capture
    have hcount := count_open_of_fits hnames hfits
    rw [hsegments, flatMap_print_parseTemplate] at hcount
    rw [Pattern.params, hsegments]
    exact List.eq_nil_of_length_eq_zero (by omega)
  · intro hplain
    exact (Pattern.isSome_captures_iff_of_plain hsegments hplain).2 (Or.inl rfl)

end RouteServer.Route
