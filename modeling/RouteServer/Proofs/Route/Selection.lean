import RouteServer.Proofs.Route.Resolution

/-
  **The place of a route** — which entry of its method answers a request.

  Entries are told apart by their place in the list of their method, since two of them may hold the
  same route.  Two tables answer alike when both select the same place with the same values, or
  both fail in the same way.  That is so as soon as their entries stand in pairs that capture the
  same (`answersAlike_of_pairs`).
-/

namespace RouteServer.Route

variable {H : Type} {path path' : String} {m : Method}

theorem firstMatch_eq_some_iff {entries : List (Entry H)} {found : Resolved H} :
    firstMatch path entries = some found ↔
      ∃ earlier later, entries = earlier ++ found.entry :: later ∧
        found.entry.pattern.captures path = some found.values ∧
        ∀ e ∈ earlier, e.pattern.captures path = none := by
  rw [firstMatch_eq_findSome?, List.findSome?_eq_some_iff]
  simp only [Option.map_eq_some_iff, Option.map_eq_none_iff]
  constructor
  · rintro ⟨earlier, e, later, rfl, ⟨values, hvalues, rfl⟩, hearlier⟩
    exact ⟨earlier, later, rfl, hvalues, hearlier⟩
  · rintro ⟨earlier, later, rfl, hvalues, hearlier⟩
    exact ⟨earlier, found.entry, later, rfl, ⟨found.values, hvalues, rfl⟩, hearlier⟩

theorem firstMatch_eq_none_iff {entries : List (Entry H)} :
    firstMatch path entries = none ↔ ∀ e ∈ entries, e.pattern.captures path = none := by
  rw [firstMatch_eq_findSome?, List.findSome?_eq_none_iff]
  simp only [Option.map_eq_none_iff]

namespace Table

variable {t u : Table H}

/-- The entry at a place of the method answers the request, and none in front of it matches. -/
def Selects (t : Table H) (path : String) (m : Method) (i : Nat) (values : List String) : Prop :=
  ∃ earlier e later, t.entriesFor m = earlier ++ e :: later ∧ earlier.length = i ∧
    t.resolve path m = .ok ⟨e, values⟩ ∧ ∀ e' ∈ earlier, e'.pattern.captures path = none

theorem selects_of_captures {earlier later : List (Entry H)} {e : Entry H} {values : List String}
    (hentries : t.entriesFor m = earlier ++ e :: later)
    (hvalues : e.pattern.captures path = some values)
    (hearlier : ∀ e' ∈ earlier, e'.pattern.captures path = none) :
    t.Selects path m earlier.length values := by
  refine ⟨earlier, e, later, hentries, rfl, ?_, hearlier⟩
  rw [resolve_eq_ok_iff, firstMatch_eq_some_iff]
  exact ⟨earlier, later, hentries, hvalues, hearlier⟩

/-- An entry that matches leaves the answer to itself or to an entry in front of it. -/
theorem exists_selects_le {earlier later : List (Entry H)} {e : Entry H} {values : List String}
    (hentries : t.entriesFor m = earlier ++ e :: later)
    (hvalues : e.pattern.captures path = some values) :
    ∃ j ≤ earlier.length, ∃ others, t.Selects path m j others := by
  cases hfirst : firstMatch path (earlier ++ [e]) with
  | none =>
    have hnone := firstMatch_eq_none_iff.1 hfirst e (by simp)
    rw [hvalues] at hnone
    cases hnone
  | some found =>
    obtain ⟨front, back, heq, hfound, hfront⟩ := firstMatch_eq_some_iff.1 hfirst
    have hplace := congrArg List.length heq
    have hsplit : t.entriesFor m = front ++ found.entry :: (back ++ later) := by
      rw [hentries, List.append_cons, heq, List.append_assoc, List.cons_append]
    rw [List.length_append, List.length_append, List.length_cons, List.length_cons] at hplace
    refine ⟨front.length, ?_, found.values, selects_of_captures hsplit hfound hfront⟩
    rw [List.length_nil] at hplace
    omega

/-- Both tables select the same place with the same values, or fail with the same error. -/
def AnswersAlike (t : Table H) (path : String) (u : Table H) (path' : String) (m : Method) : Prop :=
  (∃ i values, t.Selects path m i values ∧ u.Selects path' m i values) ∨
    ∃ e, t.resolve path m = .error e ∧ u.resolve path' m = .error e

theorem answersAlike_of_pairs {α : Type} {l : List α} {f g : α → Entry H}
    (hmethods : t.methods = u.methods) (ht : t.entriesFor m = l.map f)
    (hu : u.entriesFor m = l.map g)
    (hpairs : ∀ a, (f a).pattern.captures path = (g a).pattern.captures path') :
    t.AnswersAlike path u path' m := by
  cases hfirst : firstMatch path (t.entriesFor m) with
  | some found =>
    obtain ⟨earlier, later, hentries, hvalues, hearlier⟩ := firstMatch_eq_some_iff.1 hfirst
    have hthis := selects_of_captures hentries hvalues hearlier
    -- the list of pairs falls apart at the same place
    have hsplit := ht.symm.trans hentries
    rw [List.map_eq_append_iff] at hsplit
    obtain ⟨front, rest, rfl, rfl, hrest⟩ := hsplit
    obtain ⟨a, back, rfl, ha, -⟩ := List.map_eq_cons_iff.1 hrest
    rw [← ha, hpairs] at hvalues
    rw [List.map_append, List.map_cons] at hu
    have hother := selects_of_captures hu hvalues fun e he => by
      obtain ⟨b, hb, rfl⟩ := List.mem_map.1 he
      rw [← hpairs]
      exact hearlier _ (List.mem_map_of_mem hb)
    rw [List.length_map] at hthis hother
    exact Or.inl ⟨_, _, hthis, hother⟩
  | none =>
    have hnone := firstMatch_eq_none_iff.1 hfirst
    rw [ht] at hnone
    have hother : firstMatch path' (u.entriesFor m) = none := by
      rw [firstMatch_eq_none_iff, hu]
      intro e he
      obtain ⟨a, ha, rfl⟩ := List.mem_map.1 he
      rw [← hpairs]
      exact hnone _ (List.mem_map_of_mem ha)
    have hempty : t.entriesFor m = [] ↔ u.entriesFor m = [] := by
      rw [ht, hu, List.map_eq_nil_iff, List.map_eq_nil_iff]
    refine Or.inr ⟨if u.entriesFor m = [] then .methodNotAllowed u.methods else .notFound, ?_, ?_⟩
    · rw [resolve_eq, hfirst, hmethods]
      by_cases hnil : u.entriesFor m = [] <;> simp [hempty, hnil]
    · rw [resolve_eq, hother]
      by_cases hnil : u.entriesFor m = [] <;> simp [hnil]

end Table

end RouteServer.Route
