import RouteServer.Proofs.Route.Matching
import RouteServer.Proofs.Route.Selection
import Mathlib.Algebra.GroupWithZero.Nat

/-
  **One slash more** — a slash behind a path changes nothing, and a second one ends every match.

  A literal may itself end in slashes, and a placeholder behind it may be empty, so it is not clear
  at once which part of a cut takes the last slash of a path.  Counting settles it.  No capture
  holds a slash, so what the segments take has just the slashes of the literals, and a path that
  matches has as many, or one more when the slash behind the last segment is there
  (`exists_eq_of_fits`).  If a path matches and does not end in a slash, then the slash that is put
  behind it is left over in every cut, and the cuts are the same as before.
-/

namespace RouteServer.Route

/-- The slashes in the text that a segment asks for; a placeholder asks for none. -/
def Segment.slashes : Segment → Nat
  | .literal text => text.toList.count '/'
  | .capture _ => 0

variable {segments : List Segment} {s : List Char} {vs ws : List (List Char)}

/-- A path that fits is what the segments take, which has the slashes of the literals, and at most
    one slash behind it, which is free to come or go. -/
theorem exists_eq_of_fits (h : Fits segments s vs) :
    ∃ r e, s = r ++ e ∧ (e = [] ∨ e = ['/']) ∧
      r.count '/' = (segments.map Segment.slashes).sum ∧
      ∀ e', e' = [] ∨ e' = ['/'] → Fits segments (r ++ e') vs := by
  induction h with
  | @done e he => exact ⟨[], e, rfl, he, rfl, fun e' he' => .done he'⟩
  | @literal text segments r vs _ ih =>
    obtain ⟨r, e, rfl, he, hcount, hfits⟩ := ih
    refine ⟨text.toList ++ r, e, (List.append_assoc ..).symm, he, ?_, ?_⟩
    · rw [List.count_append, hcount, List.map_cons, List.sum_cons]
      rfl
    · intro e' he'
      rw [List.append_assoc]
      exact .literal (hfits e' he')
  | @capture p segments x r vs hx _ ih =>
    obtain ⟨r, e, rfl, he, hcount, hfits⟩ := ih
    refine ⟨x ++ r, e, (List.append_assoc ..).symm, he, ?_, ?_⟩
    · rw [List.count_append, List.count_eq_zero_of_not_mem hx.slash_not_mem, hcount,
        List.map_cons, List.sum_cons]
      rfl
    · intro e' he'
      rw [List.append_assoc]
      exact .capture hx (hfits e' he')

theorem count_slash_of_fits (hend : s.getLast? ≠ some '/') (h : Fits segments s vs) :
    s.count '/' = (segments.map Segment.slashes).sum ∧ Fits segments (s ++ ['/']) vs := by
  obtain ⟨r, e, rfl, rfl | rfl, hcount, hfits⟩ := exists_eq_of_fits h
  · rw [List.append_nil]
    exact ⟨hcount, hfits ['/'] (Or.inr rfl)⟩
  · exact absurd List.getLast?_concat hend

/-- If a path without a slash at its end fits at all, a slash behind it leaves the cuts as they
    are. -/
theorem fits_append_slash_iff (hend : s.getLast? ≠ some '/') (h : Fits segments s vs) :
    Fits segments (s ++ ['/']) ws ↔ Fits segments s ws := by
  constructor
  · intro hslash
    obtain ⟨hcount, -⟩ := count_slash_of_fits hend h
    obtain ⟨r, e, heq, he, hsame, hfits⟩ := exists_eq_of_fits hslash
    have hslashes := congrArg (List.count '/') heq
    rw [List.count_append, List.count_append, hcount, hsame] at hslashes
    rcases he with rfl | rfl
    · -- the literals would have one slash more than they have
      exact absurd (Nat.add_left_cancel hslashes) (by decide)
    · rw [List.append_cancel_right heq, ← List.append_nil r]
      exact hfits [] (Or.inl rfl)
  · intro hfits
    exact (count_slash_of_fits hend hfits).2

theorem not_fits_append_slashes (hend : s.getLast? ≠ some '/') (h : Fits segments s vs) :
    ¬ Fits segments (s ++ ['/', '/']) ws := by
  intro hslashes
  obtain ⟨hcount, -⟩ := count_slash_of_fits hend h
  obtain ⟨r, e, heq, he, hsame, -⟩ := exists_eq_of_fits hslashes
  have htwo := congrArg (List.count '/') heq
  rw [List.count_append, List.count_append, hcount, hsame] at htwo
  rcases he with rfl | rfl
  · exact absurd (Nat.add_left_cancel htwo) (by decide)
  · exact absurd (Nat.add_left_cancel htwo) (by decide)

namespace Pattern

variable {p : Pattern} {path : String} {values : List String}

theorem captures_append_one (hend : path.toList.getLast? ≠ some '/')
    (h : p.captures path = some values) : p.captures (path ++ "/") = some values := by
  have hfits := (Pattern.captures_eq_some_iff.1 h).1
  have hslash : (path ++ "/").toList = path.toList ++ ['/'] := String.toList_append
  have hcuts : ∀ ws, Fits p.segments (path ++ "/").toList ws ↔ Fits p.segments path.toList ws := by
    intro ws
    rw [hslash]
    exact fits_append_slash_iff hend hfits
  rw [Pattern.captures_eq_some_iff, Preferred] at h ⊢
  simp only [hcuts]
  exact h

theorem captures_append_two (hend : path.toList.getLast? ≠ some '/')
    (h : p.captures path = some values) : p.captures (path ++ "//") = none := by
  have hfits := (Pattern.captures_eq_some_iff.1 h).1
  have hslashes : (path ++ "//").toList = path.toList ++ ['/', '/'] := String.toList_append
  rw [Option.eq_none_iff_forall_ne_some]
  intro others hothers
  have htwo := (Pattern.captures_eq_some_iff.1 hothers).1
  rw [hslashes] at htwo
  exact not_fits_append_slashes hend hfits htwo

end Pattern

/-- **One slash behind a path is optional, and only one.**  A route that matches a path without a
    slash at its end takes the same values from it when a slash is put behind it, and does not match
    it with two.  So a request that is answered is still answered with a slash behind its path, by
    the same entry or by one in front of it. -/
theorem captures_append_slash {H : Type} (path : String)
    (hend : path.toList.getLast? ≠ some '/') :
    (∀ (p : Pattern) (values : List String), p.captures path = some values →
      p.captures (path ++ "/") = some values ∧ p.captures (path ++ "//") = none) ∧
    ∀ (t : Table H) (m : Method) (i : Nat) (values : List String), t.Selects path m i values →
      ∃ j ≤ i, ∃ others, t.Selects (path ++ "/") m j others := by
  constructor
  · intro p values h
    exact ⟨Pattern.captures_append_one hend h, Pattern.captures_append_two hend h⟩
  · rintro t m i values ⟨earlier, e, later, hentries, rfl, hresolve, -⟩
    have hvalues := (Table.mem_of_resolve_eq_ok hresolve).2
    exact Table.exists_selects_le hentries (Pattern.captures_append_one hend hvalues)

/-- An empty capture behind slashes of a literal, and a route in front that asks for the slash. -/
theorem captures_append_slash_item :
    "/x//y".toList.getLast? ≠ some '/' ∧
    (Pattern.ofTemplate "/x//{n:int}{s:str}").captures "/x//y/" = some ["", "y"] ∧
    (Pattern.ofTemplate "/x//{n:int}{s:str}").captures "/x//y//" = none ∧
    (∃ j ≤ 1, ∃ others, (tableOf [.register .get "/x//y/" 1,
      .register .get "/x//{n:int}{s:str}" 2]).Selects "/x//y/" .get j others) := by
  have hend : "/x//y".toList.getLast? ≠ some '/' := by decide
  have hvalues : (Pattern.ofTemplate "/x//{n:int}{s:str}").captures "/x//y" = some ["", "y"] := by
    decide +kernel
  have hselects : (tableOf [.register .get "/x//y/" 1,
      .register .get "/x//{n:int}{s:str}" 2]).Selects "/x//y" .get 1 ["", "y"] := by
    have hentries : (tableOf [.register .get "/x//y/" 1,
        .register .get "/x//{n:int}{s:str}" 2]).entriesFor .get =
        [.ofPattern (.ofTemplate "/x//y/") 1] ++
          [.ofPattern (.ofTemplate "/x//{n:int}{s:str}") 2] := by rfl
    refine Table.selects_of_captures hentries hvalues ?_
    intro e he
    obtain rfl := List.mem_singleton.1 he
    decide +kernel
  obtain ⟨hroute, htable⟩ := captures_append_slash "/x//y" hend
  obtain ⟨hone, htwo⟩ := hroute _ _ hvalues
  exact ⟨hend, hone, htwo, htable _ _ _ _ hselects⟩

end RouteServer.Route
