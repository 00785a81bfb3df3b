import RouteServer.Proofs.Route.Reachability
import RouteServer.Proofs.Route.Regex

/-
  **What a compiled route means** — which paths it matches, and what it captures from them.

  The meaning is the one of `Fits`: a path is cut into one part per segment, with at most a slash
  behind them, and among all cuts the one with the longest captures counts, the first capture
  before the second and so on.  The columns, the marks and the regular expression in the text of
  the route all agree with it.
-/

namespace RouteServer.Route

theorem length_eq_of_fits {segments : List Segment} {s : List Char} {vs : List (List Char)}
    (h : Fits segments s vs) : vs.length = (placeholders segments).length := by
  induction h with
  | done _ => rfl
  | literal _ ih => exact ih
  | capture _ _ ih => exact congrArg Nat.succ ih

theorem captures_eq_some_iff {segments : List Segment} {s : List Char} {vs : List (List Char)} :
    captures segments s = some vs ↔ Preferred segments s vs := by
  rw [captures_eq_head?_ways, head?_ways_eq_some_iff]

theorem isSome_captures_iff {segments : List Segment} {s : List Char} :
    (captures segments s).isSome = true ↔ ∃ vs, Fits segments s vs := by
  simp only [captures_eq_head?_ways, ← mem_ways_iff]
  rw [List.isSome_head?]
  exact ⟨List.exists_mem_of_ne_nil _, fun ⟨_, hvs⟩ => List.ne_nil_of_mem hvs⟩

theorem Pattern.captures_eq_some_iff {p : Pattern} {path : String} {vs : List String} :
    p.captures path = some vs ↔ Preferred p.segments path.toList (vs.map String.toList) := by
  rw [Pattern.captures, ← Route.captures_eq_some_iff, Option.map_eq_some_iff]
  constructor
  · rintro ⟨ws, hws, rfl⟩
    simpa [Function.comp_def] using hws
  · intro h
    exact ⟨_, h, by simp [Function.comp_def]⟩

theorem Pattern.isSome_captures_iff {p : Pattern} {path : String} :
    (p.captures path).isSome = true ↔ ∃ vs, Fits p.segments path.toList vs := by
  rw [Pattern.captures, Option.isSome_map, Route.isSome_captures_iff]

/-- The meaning of a compiled route.  It matches the paths that fit its segments, captures what
    the preferred cut of the path gives to its placeholders, one text for each, and does the same
    as its expression. -/
theorem compile_captures (t : String) (p : Pattern) (hcompile : compile t = .ok p)
    (path : String) :
    p.segments = parseTemplate (normalize t) ∧
    ((p.captures path).isSome = true ↔ ∃ vs, Fits p.segments path.toList vs) ∧
    (∀ vs, p.captures path = some vs ↔
      Preferred p.segments path.toList (vs.map String.toList)) ∧
    (∀ vs, p.captures path = some vs → vs.length = p.paramCount) ∧
    (p.isMatch path = true ↔ (p.captures path).isSome = true) ∧
    p.captures path = Regex.captures p.expression path := by
  refine ⟨?_, Pattern.isSome_captures_iff, fun vs => Pattern.captures_eq_some_iff, ?_, ?_,
    Regex.captures_eq_regex p path⟩
  · simp only [compile, compileDeclared] at hcompile
    split at hcompile
    · cases hcompile
    · cases hcompile
      rfl
  · intro vs hvs
    have hfits := (Pattern.captures_eq_some_iff.1 hvs).1
    rw [← List.length_map, length_eq_of_fits hfits]
    rfl
  · rw [Pattern.isMatch, isMatch_iff, Pattern.isSome_captures_iff]

/-- Two placeholders that touch: the digit that the second one needs is given back to it. -/
theorem compile_captures_touching :
    compile "sum/{a:int}{b:str}" = .ok (.ofTemplate "sum/{a:int}{b:str}") ∧
    (Pattern.ofTemplate "sum/{a:int}{b:str}").isMatch "/sum/12/" = true ∧
    Preferred (Pattern.ofTemplate "sum/{a:int}{b:str}").segments "/sum/12/".toList
      [['1'], ['2']] := by
  have hcompile : compile "sum/{a:int}{b:str}" = .ok (.ofTemplate "sum/{a:int}{b:str}") := by
    decide +kernel
  have hcaptures : (Pattern.ofTemplate "sum/{a:int}{b:str}").captures "/sum/12/" =
      some ["1", "2"] := by
    decide +kernel
  obtain ⟨-, -, hpreferred, -, hmatch, -⟩ := compile_captures _ _ hcompile "/sum/12/"
  refine ⟨hcompile, hmatch.2 ?_, by simpa using (hpreferred ["1", "2"]).1 hcaptures⟩
  rw [hcaptures]
  rfl

/-! ### A placeholder at the end of a route -/

variable {text : String} {p : Placeholder} {x e s : List Char} {vs : List (List Char)}

theorem fits_literal_capture_iff :
    Fits [.literal text, .capture p] s vs ↔
      ∃ x e, p.kind.Captures x ∧ (e = [] ∨ e = ['/']) ∧ s = text.toList ++ (x ++ e) ∧ vs = [x] := by
  constructor
  · intro hfits
    cases hfits with
    | literal hcapture =>
      cases hcapture with
      | capture hx hdone =>
        cases hdone with
        | done he => exact ⟨_, _, hx, he, rfl, rfl⟩
  · rintro ⟨x, e, hx, he, rfl, rfl⟩
    exact .literal (.capture hx (.done he))

theorem Kind.Captures.slash_not_mem {k : Kind} (h : k.Captures x) : '/' ∉ x := by
  intro hmem
  have hallowed := h.1 _ hmem
  cases k <;> cases hallowed

/-- No capture holds a slash, so the one at the end of a route is all that stands before it. -/
theorem preferred_literal_capture (hx : p.kind.Captures x) (he : e = [] ∨ e = ['/']) :
    Preferred [.literal text, .capture p] (text.toList ++ (x ++ e)) [x] := by
  have hfront {x e : List Char} (hx : p.kind.Captures x) (he : e = [] ∨ e = ['/']) :
      (x ++ e).takeWhile (· ≠ '/') = x := by
    have hall : ∀ c ∈ x, decide (c ≠ '/') = true := by
      intro c hc
      simpa using fun heq : c = '/' => hx.slash_not_mem (heq ▸ hc)
    rw [List.takeWhile_append_of_pos hall]
    rcases he with rfl | rfl <;> simp
  refine ⟨fits_literal_capture_iff.2 ⟨x, e, hx, he, rfl, rfl⟩, ?_⟩
  intro ws hws hne
  obtain ⟨y, f, hy, hf, hcut, rfl⟩ := fits_literal_capture_iff.1 hws
  have hrest := List.append_cancel_left hcut
  have hsame : y = x := by rw [← hfront hy hf, ← hrest, hfront hx he]
  exact absurd (congrArg (· :: []) hsame) hne

end RouteServer.Route
