import RouteServer.Route.Match
import Mathlib.Data.List.Basic

/-
  **Matching without captures** — the marks of `isMatch` say which fronts of a path the segments
  can take, and so whether the path fits.

  The invariant is `Marks.Show`: there is a mark at a place exactly when a given property holds of
  the text in front of it.  Each segment turns marks that show one property into marks that show the
  next (`Show.segment`), and at the end the property speaks of the whole path.
-/

namespace RouteServer.Route

def Segment.Takes : Segment → List Char → Prop
  | .literal text, x => x = text.toList
  | .capture p, x => p.kind.Captures x

theorem exists_fits_cons_iff {segment : Segment} {segments : List Segment} {s : List Char} :
    (∃ vs, Fits (segment :: segments) s vs) ↔
      ∃ x r, s = x ++ r ∧ segment.Takes x ∧ ∃ vs, Fits segments r vs := by
  constructor
  · rintro ⟨vs, h⟩
    cases h with
    | literal h => exact ⟨_, _, rfl, rfl, _, h⟩
    | capture hx h => exact ⟨_, _, rfl, hx, _, h⟩
  · rintro ⟨x, r, rfl, hx, vs, h⟩
    cases segment with
    | literal text =>
      obtain rfl : x = text.toList := hx
      exact ⟨vs, .literal h⟩
    | capture p => exact ⟨x :: vs, .capture hx h⟩

/-- A mark stands behind exactly those fronts of the path that have a property. -/
structure Marks.Show (marks : Marks) (path : List Char) (reached : List Char → Prop) : Prop where
  length_eq : marks.length = path.length + 1
  marked_iff : ∀ x y, path = x ++ y → (marks[x.length]? = some true ↔ reached x)

namespace Marks.Show

variable {marks : Marks} {path : List Char} {reached : List Char → Prop}

theorem congr {reached' : List Char → Prop} (h : marks.Show path reached)
    (hiff : ∀ x, reached x ↔ reached' x) : marks.Show path reached' :=
  ⟨h.length_eq, fun x y hxy => (h.marked_iff x y hxy).trans (hiff x)⟩

theorem getLast?_iff (h : marks.Show path reached) : marks.getLast? = some true ↔ reached path := by
  rw [List.getLast?_eq_getElem?, h.length_eq, Nat.add_sub_cancel]
  exact h.marked_iff path [] (by simp)

theorem start (path : List Char) : Show (true :: path.map fun _ => false) path (· = []) := by
  constructor
  · simp
  · intro x y _
    cases x with
    | nil => simp
    | cons c x =>
      rw [List.length_cons, List.getElem?_cons_succ, List.getElem?_map]
      cases path[x.length]? <;> simp

theorem advance (h : marks.Show path reached) (allowed : Char → Bool) :
    (marks.advance path allowed).Show path fun x =>
      ∃ y c, x = y ++ [c] ∧ reached y ∧ allowed c = true := by
  constructor
  · simp [Marks.advance, h.length_eq]
  · intro x y hxy
    rcases List.eq_nil_or_concat' x with rfl | ⟨x', c, rfl⟩
    · simp [Marks.advance]
    · have hplace := h.marked_iff x' (c :: y) (by simpa using hxy)
      have hchar : path[x'.length]? = some c := by simp [hxy]
      rw [Marks.advance, List.length_append, List.length_singleton, List.getElem?_cons_succ,
        List.getElem?_zipWith, hchar]
      constructor
      · intro hmark
        cases hm : marks[x'.length]? with
        | none => simp [hm] at hmark
        | some m =>
          simp only [hm, Option.some.injEq, Bool.and_eq_true] at hmark
          exact ⟨x', c, rfl, hplace.1 (by rw [hm, hmark.1]), hmark.2⟩
      · rintro ⟨y', c', heq, hreached, hc⟩
        obtain ⟨rfl, rfl⟩ := List.append_singleton_inj.1 heq
        simp [hplace.2 hreached, hc]

/-- A copy of a mark arrives from further up, or from a mark on the way, over allowed characters
    only. -/
theorem getElem?_spread (allowed : Char → Bool) {s : List Char} (run : Bool) {marks : Marks}
    (hlength : marks.length = s.length + 1) {x y : List Char} (hs : s = x ++ y) :
    (Marks.spread allowed s run marks)[x.length]? = some true ↔
      (run = true ∧ ∀ c ∈ x, allowed c = true) ∨
        ∃ u v, x = u ++ v ∧ marks[u.length]? = some true ∧ ∀ c ∈ v, allowed c = true := by
  induction s generalizing run marks x with
  | nil =>
    obtain ⟨rfl, rfl⟩ := List.append_eq_nil_iff.1 hs.symm
    obtain ⟨m, rfl⟩ := List.length_eq_one_iff.1 hlength
    simp [Marks.spread, and_assoc]
  | cons c r ih =>
    cases marks with
    | nil => simp at hlength
    | cons m ms =>
      rw [Marks.spread]
      cases x with
      | nil => simp [and_assoc]
      | cons d x =>
        obtain ⟨rfl, hr⟩ := List.cons.inj hs
        rw [List.length_cons, List.getElem?_cons_succ,
          ih ((run || m) && allowed c) (by simpa using hlength) hr]
        constructor
        · rintro (⟨hrun, hx⟩ | ⟨u, v, rfl, hmark, hv⟩)
          · rw [Bool.and_eq_true, Bool.or_eq_true] at hrun
            have hall : ∀ e ∈ c :: x, allowed e = true := by
              simpa using ⟨hrun.2, hx⟩
            rcases hrun.1 with hrun' | hm
            · exact Or.inl ⟨hrun', hall⟩
            · exact Or.inr ⟨[], c :: x, rfl, by simp [hm], hall⟩
          · exact Or.inr ⟨c :: u, v, rfl, hmark, hv⟩
        · rintro (⟨hrun, hx⟩ | ⟨u, v, heq, hmark, hv⟩)
          · exact Or.inl ⟨by simp [hrun, hx c], fun e he => hx e (List.mem_cons_of_mem _ he)⟩
          · cases u with
            | nil =>
              obtain rfl : c :: x = v := heq
              have hm : m = true := by simpa using hmark
              exact Or.inl ⟨by simp [hm, hv c], fun e he => hv e (List.mem_cons_of_mem _ he)⟩
            | cons e u =>
              obtain ⟨rfl, rfl⟩ := List.cons.inj heq
              exact Or.inr ⟨u, v, rfl, by simpa using hmark, hv⟩

theorem length_spread (allowed : Char → Bool) (s : List Char) (run : Bool) (marks : Marks) :
    (Marks.spread allowed s run marks).length = marks.length := by
  induction s generalizing run marks with
  | nil => simp [Marks.spread]
  | cons c r ih =>
    cases marks with
    | nil => simp [Marks.spread]
    | cons m ms => simp [Marks.spread, ih]

theorem spread (h : marks.Show path reached) (allowed : Char → Bool) :
    (Marks.spread allowed path false marks).Show path fun x =>
      ∃ y z, x = y ++ z ∧ reached y ∧ ∀ c ∈ z, allowed c = true := by
  constructor
  · rw [length_spread, h.length_eq]
  · intro x y hxy
    rw [getElem?_spread allowed false h.length_eq hxy]
    constructor
    · rintro (⟨hrun, -⟩ | ⟨u, v, rfl, hmark, hv⟩)
      · cases hrun
      · exact ⟨u, v, rfl, (h.marked_iff u (v ++ y) (by simpa using hxy)).1 hmark, hv⟩
    · rintro ⟨u, v, rfl, hreached, hv⟩
      exact Or.inr ⟨u, v, rfl, (h.marked_iff u (v ++ y) (by simpa using hxy)).2 hreached, hv⟩

theorem literal (h : marks.Show path reached) (text : List Char) :
    (text.foldl (fun ms c => ms.advance path (· == c)) marks).Show path fun x =>
      ∃ y, x = y ++ text ∧ reached y := by
  induction text generalizing marks reached with
  | nil => exact h.congr (by simp)
  | cons c text ih =>
    refine (ih (h.advance (· == c))).congr fun x => ?_
    constructor
    · rintro ⟨_, rfl, y, d, rfl, hy, hd⟩
      obtain rfl := beq_iff_eq.1 hd
      exact ⟨y, by simp, hy⟩
    · rintro ⟨y, rfl, hy⟩
      exact ⟨y ++ [c], by simp, y, c, rfl, hy, beq_self_eq_true c⟩

/-- One step: the marks behind a segment show what can be taken up to its end. -/
theorem segment (h : marks.Show path reached) (segment : Segment) :
    (segment.marks path marks).Show path fun x =>
      ∃ y z, x = y ++ z ∧ reached y ∧ segment.Takes z := by
  cases segment with
  | literal text =>
    refine (h.literal text.toList).congr fun x => ?_
    simp [Segment.Takes]
  | capture p =>
    rw [Segment.marks]
    cases hk : p.kind with
    | int =>
      refine (h.spread _).congr fun x => ?_
      simp [Segment.Takes, Kind.Captures, hk]
    | str =>
      refine ((h.advance _).spread _).congr fun x => ?_
      simp only [Segment.Takes, Kind.Captures, hk]
      constructor
      · rintro ⟨_, z, rfl, ⟨y, c, rfl, hy, hc⟩, hz⟩
        exact ⟨y, c :: z, by simp, hy, by simpa using ⟨hc, hz⟩, by simp⟩
      · rintro ⟨y, z, rfl, hy, hz, hne⟩
        cases z with
        | nil => simp at hne
        | cons c z =>
          exact ⟨y ++ [c], z, by simp, ⟨y, c, rfl, hy, hz c (by simp)⟩,
            fun e he => hz e (List.mem_cons_of_mem _ he)⟩

/-- The run: behind all segments, the last mark or one slash before it decides. -/
theorem segments (h : marks.Show path reached) (segments : List Segment) :
    ((segments.foldl (Segment.marks path) marks).getLast? = some true ∨
      (Marks.advance path (· == '/') (segments.foldl (Segment.marks path) marks)).getLast? =
        some true) ↔
      ∃ x y, path = x ++ y ∧ reached x ∧ ∃ vs, Fits segments y vs := by
  induction segments generalizing marks reached with
  | nil =>
    rw [List.foldl_nil, h.getLast?_iff, (h.advance (· == '/')).getLast?_iff]
    constructor
    · rintro (hreached | ⟨y, c, rfl, hy, hc⟩)
      · exact ⟨path, [], by simp, hreached, [], .done (Or.inl rfl)⟩
      · obtain rfl := beq_iff_eq.1 hc
        exact ⟨y, ['/'], rfl, hy, [], .done (Or.inr rfl)⟩
    · rintro ⟨x, y, rfl, hx, vs, hfits⟩
      cases hfits with
      | done he =>
        rcases he with rfl | rfl
        · exact Or.inl (by simpa using hx)
        · exact Or.inr ⟨x, '/', rfl, hx, rfl⟩
  | cons segment segments ih =>
    rw [List.foldl_cons, ih (h.segment segment)]
    simp only [exists_fits_cons_iff]
    constructor
    · rintro ⟨_, r, hpath, ⟨y, z, rfl, hy, hz⟩, hfits⟩
      exact ⟨y, z ++ r, by simpa using hpath, hy, z, r, rfl, hz, hfits⟩
    · rintro ⟨y, _, hpath, hy, z, r, rfl, hz, hfits⟩
      exact ⟨y ++ z, r, by simpa using hpath, ⟨y, z, rfl, hy, hz⟩, hfits⟩

end Marks.Show

theorem isMatch_iff {segments : List Segment} {path : List Char} :
    isMatch segments path = true ↔ ∃ vs, Fits segments path vs := by
  rw [isMatch, Bool.or_eq_true, beq_iff_eq, beq_iff_eq,
    (Marks.Show.start path).segments segments]
  constructor
  · rintro ⟨x, y, hpath, rfl, hfits⟩
    exact hpath ▸ hfits
  · intro hfits
    exact ⟨[], path, rfl, rfl, hfits⟩

end RouteServer.Route
