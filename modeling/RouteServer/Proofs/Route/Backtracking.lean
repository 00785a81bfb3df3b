import RouteServer.Route.Match
import Mathlib.Data.List.Infix

/-
  **Matching by backtracking** — the plain way to match a path, against which the columns are
  measured.

  `ways` lists every way to cut a path, in the order in which a greedy matcher tries them: a
  placeholder first takes as many characters as it can, and gives one back at a time when what
  follows does not fit.  The list is complete (`mem_ways_iff`), and its capture lengths go down in
  lexicographic order (`ways_sorted`), so its head is the cut that counts.

  The list can be exponentially long.  `captures` never makes it: `column_eq` says that a column
  holds, for every place, just the head of the list from there on.
-/

namespace RouteServer.Route

/-! ### The cuts of one placeholder -/

/-- The ways to take allowed characters from the front, the longest first, each with the rest. -/
def runs (allowed : Char → Bool) : List Char → List (List Char × List Char)
  | [] => [([], [])]
  | c :: r =>
    if allowed c then (runs allowed r).map (fun h => (c :: h.1, h.2)) ++ [([], c :: r)]
    else [([], c :: r)]

/-- The ways in which a placeholder can take its text from the front, the longest first. -/
def Kind.cuts (k : Kind) (s : List Char) : List (List Char × List Char) :=
  match k with
  | .int => runs k.allows s
  | .str => (runs k.allows s).filter fun h => !h.1.isEmpty

theorem mem_runs_iff {allowed : Char → Bool} {s x y : List Char} :
    (x, y) ∈ runs allowed s ↔ s = x ++ y ∧ ∀ c ∈ x, allowed c = true := by
  induction s generalizing x with
  | nil =>
    simp only [runs, List.mem_singleton, Prod.mk.injEq, List.nil_eq, List.append_eq_nil_iff]
    constructor
    · rintro ⟨rfl, rfl⟩
      exact ⟨⟨rfl, rfl⟩, by simp⟩
    · exact fun h => h.1
  | cons c r ih =>
    have hstop : (x, y) = ([], c :: r) ↔ c :: r = y ∧ x = [] := by
      rw [Prod.mk.injEq, and_comm, eq_comm (a := y)]
    by_cases hc : allowed c = true
    · rw [runs, if_pos hc, List.mem_append, List.mem_singleton, hstop, List.mem_map]
      constructor
      · rintro (⟨⟨x', y'⟩, hmem, heq⟩ | ⟨rfl, rfl⟩)
        · obtain ⟨rfl, rfl⟩ := Prod.mk.inj heq
          obtain ⟨rfl, hx⟩ := ih.1 hmem
          exact ⟨rfl, by simpa using ⟨hc, hx⟩⟩
        · exact ⟨rfl, by simp⟩
      · rintro ⟨hs, hx⟩
        cases x with
        | nil => exact Or.inr ⟨hs, rfl⟩
        | cons d x' =>
          obtain ⟨rfl, rfl⟩ := List.cons.inj hs
          exact Or.inl ⟨(x', y), ih.2 ⟨rfl, fun e he => hx e (by simp [he])⟩, rfl⟩
    · rw [runs, if_neg hc, List.mem_singleton, hstop]
      constructor
      · rintro ⟨rfl, rfl⟩
        exact ⟨rfl, by simp⟩
      · rintro ⟨hs, hx⟩
        cases x with
        | nil => exact ⟨hs, rfl⟩
        | cons d x' =>
          obtain ⟨rfl, -⟩ := List.cons.inj hs
          exact absurd (hx c (by simp)) hc

theorem mem_cuts_iff {k : Kind} {s x y : List Char} :
    (x, y) ∈ k.cuts s ↔ s = x ++ y ∧ k.Captures x := by
  cases k with
  | int => simp [Kind.cuts, Kind.Captures, mem_runs_iff]
  | str => simp [Kind.cuts, Kind.Captures, mem_runs_iff, and_assoc]

theorem runs_sorted (allowed : Char → Bool) (s : List Char) :
    (runs allowed s).Pairwise fun a b => b.1.length < a.1.length := by
  induction s with
  | nil => simp [runs]
  | cons c r ih =>
    by_cases hc : allowed c = true
    · rw [runs, if_pos hc, List.pairwise_append, List.pairwise_map]
      refine ⟨ih.imp fun h => Nat.succ_lt_succ h, List.pairwise_singleton _ _, ?_⟩
      intro a ha b hb
      obtain ⟨h, -, rfl⟩ := List.mem_map.1 ha
      obtain rfl := List.mem_singleton.1 hb
      exact Nat.succ_pos _
    · rw [runs, if_neg hc]
      exact List.pairwise_singleton _ _

theorem cuts_sorted (k : Kind) (s : List Char) :
    (k.cuts s).Pairwise fun a b => b.1.length < a.1.length := by
  cases k with
  | int => exact runs_sorted _ s
  | str => exact (runs_sorted _ s).filter _

/-! ### The cuts of a path -/

/-- The cuts of a placeholder, each with the ways to go on behind it. -/
def followedBy (onward : List Char → List (List (List Char)))
    (cuts : List (List Char × List Char)) : List (List (List Char)) :=
  cuts.flatMap fun h => (onward h.2).map (h.1 :: ·)

/-- Every way to cut a path, as the list of its captures, in the order in which a greedy matcher
    tries them. -/
def ways : List Segment → List Char → List (List (List Char))
  | [], e => if e = [] ∨ e = ['/'] then [[]] else []
  | .literal text :: segments, s =>
    match Text.stripStart text.toList s with
    | some r => ways segments r
    | none => []
  | .capture p :: segments, s => followedBy (ways segments) (p.kind.cuts s)

theorem mem_ways_iff {segments : List Segment} {s : List Char} {vs : List (List Char)} :
    vs ∈ ways segments s ↔ Fits segments s vs := by
  induction segments generalizing s vs with
  | nil =>
    by_cases he : s = [] ∨ s = ['/']
    · rw [ways, if_pos he, List.mem_singleton]
      constructor
      · rintro rfl
        exact .done he
      · intro h
        cases h
        rfl
    · rw [ways, if_neg he]
      constructor
      · intro h
        cases h
      · intro h
        cases h with
        | done h => exact absurd h he
  | cons segment segments ih =>
    cases segment with
    | literal text =>
      simp only [ways]
      constructor
      · intro h
        split at h
        · rename_i r hr
          rw [Text.stripStart_eq_some hr]
          exact .literal (ih.1 h)
        · cases h
      · intro h
        cases h with
        | literal h =>
          simpa [Text.stripStart] using ih.2 h
    | capture p =>
      simp only [ways, followedBy, List.mem_flatMap, List.mem_map]
      constructor
      · rintro ⟨⟨x, r⟩, hcut, ws, hws, rfl⟩
        obtain ⟨rfl, hx⟩ := mem_cuts_iff.1 hcut
        exact .capture hx (ih.1 hws)
      · intro h
        cases h with
        | capture hx h => exact ⟨(_, _), mem_cuts_iff.2 ⟨rfl, hx⟩, _, ih.2 h, rfl⟩

theorem ways_sorted (segments : List Segment) (s : List Char) :
    (ways segments s).Pairwise fun v w =>
      List.Lex (· < ·) (w.map List.length) (v.map List.length) := by
  induction segments generalizing s with
  | nil =>
    by_cases he : s = [] ∨ s = ['/']
    · rw [ways, if_pos he]
      exact List.pairwise_singleton _ _
    · rw [ways, if_neg he]
      exact .nil
  | cons segment segments ih =>
    cases segment with
    | literal text =>
      rw [ways]
      split
      · exact ih _
      · exact .nil
    | capture p =>
      rw [ways, followedBy, List.pairwise_flatMap]
      constructor
      · intro h _
        rw [List.pairwise_map]
        exact (ih h.2).imp fun hlt => List.cons_lex_cons_iff.2 (Or.inr ⟨rfl, hlt⟩)
      · -- a longer first capture decides, whatever follows
        refine (cuts_sorted p.kind s).imp fun hlt v hv w hw => ?_
        obtain ⟨v', -, rfl⟩ := List.mem_map.1 hv
        obtain ⟨w', -, rfl⟩ := List.mem_map.1 hw
        exact List.cons_lex_cons_iff.2 (Or.inl hlt)

/-- The captures of the cut that counts: those of every other cut of the path have
    lexicographically smaller lengths. -/
def Preferred (segments : List Segment) (s : List Char) (vs : List (List Char)) : Prop :=
  Fits segments s vs ∧
    ∀ ws, Fits segments s ws → ws ≠ vs →
      List.Lex (· < ·) (ws.map List.length) (vs.map List.length)

theorem head?_ways_eq_some_iff {segments : List Segment} {s : List Char} {vs : List (List Char)} :
    (ways segments s).head? = some vs ↔ Preferred segments s vs := by
  have hsorted := ways_sorted segments s
  simp only [Preferred, ← mem_ways_iff]
  cases hways : ways segments s with
  | nil => simp
  | cons v r =>
    rw [hways, List.pairwise_cons] at hsorted
    rw [List.head?_cons, Option.some.injEq]
    constructor
    · rintro rfl
      refine ⟨List.mem_cons_self, fun ws hws hne => ?_⟩
      exact hsorted.1 ws ((List.mem_cons.1 hws).resolve_left hne)
    · rintro ⟨hvs, hmax⟩
      by_contra hne
      have hless := hsorted.1 vs ((List.mem_cons.1 hvs).resolve_left (Ne.symm hne))
      exact List.lex_asymm (fun h => Nat.lt_asymm h) hless (hmax v List.mem_cons_self hne)

/-! ### Columns hold the heads of these lists -/

/-- Puts a character in front of the first capture. -/
def lengthenFirst (c : Char) : List (List Char) → List (List Char)
  | x :: xs => (c :: x) :: xs
  | [] => []

theorem followedBy_lengthen (onward : List Char → List (List (List Char))) (c : Char)
    (cuts : List (List Char × List Char)) :
    followedBy onward (cuts.map fun h => (c :: h.1, h.2)) =
      (followedBy onward cuts).map (lengthenFirst c) := by
  simp only [followedBy, List.flatMap_map, List.map_flatMap, List.map_map]
  rfl

theorem followedBy_append (onward : List Char → List (List (List Char)))
    (cuts others : List (List Char × List Char)) :
    followedBy onward (cuts ++ others) = followedBy onward cuts ++ followedBy onward others :=
  List.flatMap_append

theorem exists_cons_of_head?_followedBy {onward : List Char → List (List (List Char))}
    {cuts : List (List Char × List Char)} {vs : List (List Char)}
    (hhead : (followedBy onward cuts).head? = some vs) : ∃ x xs, vs = x :: xs := by
  obtain ⟨h, -, hmem⟩ := List.mem_flatMap.1 (List.mem_of_head? hhead)
  obtain ⟨ws, -, rfl⟩ := List.mem_map.1 hmem
  exact ⟨_, _, rfl⟩

theorem first_map_tails (f : List Char → Option (List (List Char))) (s : List Char) :
    Column.first (s.tails.map f) = f s := by
  cases s <;> rfl

theorem endColumn_eq (path : List Char) :
    endColumn path = path.tails.map fun s => (ways [] s).head? := by
  induction path with
  | nil => rfl
  | cons c r ih =>
    rw [endColumn, ih, List.tails_cons, List.map_cons]
    congr 1
    by_cases hslash : c :: r = ['/'] <;> simp [ways, hslash]

theorem literalColumn_eq (text : List Char) (onward : List Char → List (List (List Char)))
    (path : List Char) :
    literalColumn text path ((path.tails.map fun s => (onward s).head?).drop text.length) =
      path.tails.map fun s => match Text.stripStart text s with
        | some r => (onward r).head?
        | none => none := by
  induction path with
  | nil =>
    cases text with
    | nil => rfl
    | cons d t => rfl
  | cons c r ih =>
    rw [literalColumn, List.tail_drop, List.tails_cons, List.map_cons, List.drop_succ_cons, ih,
      List.map_cons]
    congr 1
    by_cases hstarts : text.isPrefixOf (c :: r) = true
    · have hlength : text.length ≤ (c :: r).length :=
        (List.isPrefixOf_iff_prefix.1 hstarts).length_le
      have hplace : ((c :: r).tails.map fun s => (onward s).head?)[text.length]? =
          some (onward ((c :: r).drop text.length)).head? := by
        rw [List.getElem?_map, List.getElem?_eq_getElem (by simpa using Nat.lt_succ_of_le hlength),
          List.getElem_tails]
        rfl
      rw [List.tails_cons, List.map_cons] at hplace
      simp only [hstarts, if_true, Text.stripStart, Column.first, List.head?_drop, hplace,
        Option.join_some]
    · simp [hstarts, Text.stripStart]

theorem head?_followedBy_stop (onward : List Char → List (List (List Char))) (s : List Char) :
    (followedBy onward [([], s)]).head? = (onward s).head?.map ([] :: ·) := by
  simp [followedBy]

theorem runColumn_eq (allowed : Char → Bool) (onward : List Char → List (List (List Char)))
    (path : List Char) :
    runColumn allowed path (path.tails.map fun s => (onward s).head?) =
      path.tails.map fun s => (followedBy onward (runs allowed s)).head? := by
  induction path with
  | nil => simp [runColumn, runs, head?_followedBy_stop, Column.first]
  | cons c r ih =>
    simp only [runColumn, List.tails_cons, List.map_cons, List.tail_cons, ih, first_map_tails]
    congr 1
    by_cases hc : allowed c = true
    · rw [runs, if_pos hc, followedBy_append, List.head?_append, followedBy_lengthen,
        List.head?_map, head?_followedBy_stop, hc]
      cases hhead : (followedBy onward (runs allowed r)).head? with
      | none => rfl
      | some vs =>
        obtain ⟨x, xs, rfl⟩ := exists_cons_of_head?_followedBy hhead
        rfl
    · rw [runs, if_neg hc, head?_followedBy_stop, Bool.eq_false_iff.2 hc]
      rfl

theorem nonemptyColumn_eq (allowed : Char → Bool) (onward : List Char → List (List (List Char)))
    (path : List Char) :
    nonemptyColumn allowed path
        (path.tails.map fun s => (followedBy onward (runs allowed s)).head?) =
      path.tails.map fun s =>
        (followedBy onward ((runs allowed s).filter fun h => !h.1.isEmpty)).head? := by
  induction path with
  | nil => simp [nonemptyColumn, runs, followedBy]
  | cons c r ih =>
    simp only [nonemptyColumn, List.tails_cons, List.map_cons, List.tail_cons, ih, first_map_tails]
    congr 1
    by_cases hc : allowed c = true
    · have hfilter : ((runs allowed (c :: r)).filter fun h => !h.1.isEmpty) =
          (runs allowed r).map fun h => (c :: h.1, h.2) := by
        rw [runs, if_pos hc, List.filter_append, List.filter_map]
        simp [Function.comp_def]
      rw [hfilter, followedBy_lengthen, List.head?_map, hc]
      cases hhead : (followedBy onward (runs allowed r)).head? with
      | none => rfl
      | some vs =>
        obtain ⟨x, xs, rfl⟩ := exists_cons_of_head?_followedBy hhead
        rfl
    · rw [runs, if_neg hc, Bool.eq_false_iff.2 hc]
      simp [followedBy]

/-- A column holds the best captures from each place of the path on. -/
theorem column_eq (path : List Char) (segments : List Segment) :
    column path segments = path.tails.map fun s => (ways segments s).head? := by
  induction segments with
  | nil => exact endColumn_eq path
  | cons segment segments ih =>
    rw [column, ih]
    cases segment with
    | literal text =>
      rw [Segment.column, literalColumn_eq]
      congr 1
      funext s
      rw [ways]
      split <;> simp_all
    | capture p =>
      rw [Segment.column, runColumn_eq]
      cases hk : p.kind with
      | int => simp only [ways, Kind.cuts, hk]
      | str => simp only [ways, Kind.cuts, hk, nonemptyColumn_eq]

theorem captures_eq_head?_ways (segments : List Segment) (path : List Char) :
    captures segments path = (ways segments path).head? := by
  rw [captures, column_eq, first_map_tails]

end RouteServer.Route
