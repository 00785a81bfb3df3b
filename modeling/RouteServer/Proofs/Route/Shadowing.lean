import RouteServer.Proofs.Route.Regex
import RouteServer.Proofs.Route.Resolution

/-
  **Shadowed routes** — a route that an earlier one stands in front of is never found.

  Two routes are equivalent when their expressions are the same text, whatever their placeholders
  are called.  A route captures what its expression does, so equivalent routes match the same paths,
  and of two of them under one method only the earlier can answer.  The later one can be taken out
  of the history: no path is resolved differently under any method, and the methods that are listed
  as allowed are the same and in the same order, since the earlier route brought in its method
  already.

  What is taken out is one record of the log.  `dropRegistration` says what that means for the
  calls: a call under one method is left out, and one under several methods loses one of them.
-/

namespace RouteServer.Route

variable {H : Type}

/-! ### Leaving out a registration -/

/-- The call without one of its records. -/
def Registration.without (i : Nat) : Registration H → List (Registration H)
  | .register _ _ _ => []
  | .registerDeclared _ _ _ => []
  | .registerMany ms template handler => [.registerMany (ms.eraseIdx i) template handler]

/-- The history without one of its successful registrations, given by its place in the log. -/
def dropRegistration : Nat → List (Registration H) → List (Registration H)
  | _, [] => []
  | i, c :: calls =>
    if i < c.records.length then c.without i ++ calls
    else c :: dropRegistration (i - c.records.length) calls

theorem Registration.logOf_without {c : Registration H} {i : Nat} (h : i < c.records.length) :
    logOf (c.without i) = c.records.eraseIdx i := by
  have hone {r : Registered H} (hrecords : c.records = [r]) : c.records.eraseIdx i = [] := by
    rw [hrecords, List.length_singleton, Nat.lt_one_iff] at h
    rw [hrecords, h, List.eraseIdx_cons_zero]
  by_cases hrefused : c.Refused
  · rw [records_of_refused hrefused] at h
    cases h
  · obtain ⟨t, ht, -, hrecords⟩ := exists_records_of_not_refused hrefused
    cases c with
    | register m template handler => exact (hone hrecords).symm
    | registerDeclared m template handler => exact (hone hrecords).symm
    | registerMany ms template handler =>
      have hblank : ¬ (Registration.registerMany (ms.eraseIdx i) template handler).Refused :=
        hrefused
      obtain ⟨t', ht', -, hothers⟩ := exists_records_of_not_refused hblank
      obtain rfl : t = t' := Option.some.inj (ht.symm.trans ht')
      rw [without, logOf, List.flatMap_singleton, hothers, hrecords]
      simp only [methods, List.eraseIdx_eq_take_drop_succ, List.map_append, List.map_take,
        List.map_drop]
      rfl

theorem logOf_dropRegistration (i : Nat) (calls : List (Registration H)) :
    logOf (dropRegistration i calls) = (logOf calls).eraseIdx i := by
  induction calls generalizing i with
  | nil => rfl
  | cons c calls ih =>
    have hlog : logOf (c :: calls) = c.records ++ logOf calls := List.flatMap_cons
    rw [dropRegistration, hlog]
    split
    · rename_i hhere
      rw [logOf_append, Registration.logOf_without hhere, List.eraseIdx_append_of_lt_length hhere]
    · rename_i hlater
      have hcons : logOf (c :: dropRegistration (i - c.records.length) calls) =
          c.records ++ logOf (dropRegistration (i - c.records.length) calls) := List.flatMap_cons
      rw [hcons, ih, List.eraseIdx_append_of_length_le (Nat.le_of_not_lt hlater)]

/-! ### What an earlier record hides -/

theorem captures_eq_of_equivalent {a b : Pattern} (h : a.equivalent b = true) (path : String) :
    a.captures path = b.captures path := by
  have hexpression : a.expression = b.expression := eq_of_beq h
  rw [Regex.captures_eq_regex, Regex.captures_eq_regex, hexpression]

theorem Registered.answer_isSome {q r : Registered H} (hmethod : q.method = r.method)
    (hpattern : q.entry.pattern.equivalent r.entry.pattern = true) (path : String) (m : Method) :
    (q.answer path m).isSome = (r.answer path m).isSome := by
  rw [answer, answer, hmethod, captures_eq_of_equivalent hpattern]
  split
  · rw [Option.isSome_map, Option.isSome_map]
  · rfl

section Lists

variable {α β : Type} {front back : List α} {a b : α}

theorem findSome?_append_cons_of_mem {f : α → Option β} (ha : a ∈ front)
    (hhides : (f a).isSome = (f b).isSome) :
    (front ++ b :: back).findSome? f = (front ++ back).findSome? f := by
  rw [List.findSome?_append, List.findSome?_append]
  cases hfront : front.findSome? f with
  | some found => rfl
  | none =>
    have hnone := List.findSome?_eq_none_iff.1 hfront a ha
    rw [hnone, Option.isSome_none, eq_comm, Option.isSome_eq_false_iff, Option.isNone_iff_eq_none]
      at hhides
    rw [List.findSome?_cons, hhides]

theorem eraseDups_append_cons_of_mem [DecidableEq α] (ha : a ∈ front) :
    (front ++ a :: back).eraseDups = (front ++ back).eraseDups := by
  rw [List.eraseDups_append, List.eraseDups_append]
  simp [List.removeAll, ha]

end Lists

/-- The log decides what is resolved by the first answer in it and by its methods. -/
theorem Table.Follows.resolve_congr {t u : Table H} {log others : List (Registered H)}
    (ht : t.Follows log) (hu : u.Follows others) {path : String} {m : Method}
    (hanswer : log.findSome? (Registered.answer path m) =
      others.findSome? (Registered.answer path m))
    (hmethods : (log.map (·.method)).eraseDups = (others.map (·.method)).eraseDups) :
    t.resolve path m = u.resolve path m := by
  rw [← ht.methods_eq, ← hu.methods_eq] at hmethods
  have hempty : t.entriesFor m = [] ↔ u.entriesFor m = [] := by
    rw [← not_iff_not, ← ne_eq, ← ne_eq, ← ht.records.mem_methods, ← hu.records.mem_methods,
      hmethods]
  rw [Table.resolve_eq, Table.resolve_eq, ht.firstMatch_eq, hu.firstMatch_eq, hanswer, hmethods]
  simp only [hempty]

/-- **A route behind an equivalent one is dead.**  Take any history and two of its successful
    registrations under one method with equivalent routes, the placeholders of which may have other
    names.  Without the later of the two, every path under every method has the same answer: the
    same entry with the same values, or the same error with the same list of allowed methods. -/
theorem resolve_dropRegistration (calls : List (Registration H)) {i j : Nat}
    {q r : Registered H} (hbefore : i < j) (hq : (logOf calls)[i]? = some q)
    (hr : (logOf calls)[j]? = some r) (hmethod : q.method = r.method)
    (hpattern : q.entry.pattern.equivalent r.entry.pattern = true) :
    logOf (dropRegistration j calls) = (logOf calls).eraseIdx j ∧
      ∀ path m, (tableOf (dropRegistration j calls)).resolve path m =
        (tableOf calls).resolve path m := by
  have hdropped := logOf_dropRegistration j calls
  refine ⟨hdropped, ?_⟩
  intro path m
  -- the log falls apart at the record that is left out, and the earlier one is in front of it
  obtain ⟨hj, hrecord⟩ := List.getElem?_eq_some_iff.1 hr
  have hsplit : logOf calls = (logOf calls).take j ++ r :: (logOf calls).drop (j + 1) := by
    rw [← hrecord, ← List.drop_eq_getElem_cons hj, List.take_append_drop]
  have hfront : q ∈ (logOf calls).take j := by
    apply List.mem_of_getElem?
    rw [List.getElem?_take_of_lt hbefore]
    exact hq
  have hrest := Table.Follows.history (dropRegistration j calls)
  rw [hdropped, List.eraseIdx_eq_take_drop_succ] at hrest
  apply hrest.resolve_congr (hsplit ▸ Table.Follows.history calls)
  · exact (findSome?_append_cons_of_mem hfront
      (Registered.answer_isSome hmethod hpattern path m)).symm
  · rw [List.map_append, List.map_append, List.map_cons]
    apply Eq.symm
    apply eraseDups_append_cons_of_mem
    rw [← hmethod]
    exact List.mem_map_of_mem hfront

/-- The last call spells its route without the slash and with another name, and stays under PUT. -/
theorem resolve_dropRegistration_renamed :
    (Pattern.ofTemplate "/item/{id:int}").equivalent (.ofTemplate "item/{n:int}") = true ∧
    ∀ path m,
      (tableOf [.registerMany [.post, .get] "/item/{id:int}" 1, .register .get "/{page:str}" 2,
        .registerMany [.put] "item/{n:int}" 3]).resolve path m =
      (tableOf [.registerMany [.post, .get] "/item/{id:int}" 1, .register .get "/{page:str}" 2,
        .registerMany [.put, .get] "item/{n:int}" 3]).resolve path m := by
  have hpattern : (Pattern.ofTemplate "/item/{id:int}").equivalent (.ofTemplate "item/{n:int}") =
      true := by decide +kernel
  have hshadowed := resolve_dropRegistration [.registerMany [.post, .get] "/item/{id:int}" 1,
    .register .get "/{page:str}" 2, .registerMany [.put, .get] "item/{n:int}" 3]
    (by decide : 1 < 4) (q := ⟨.get, "/item/{id:int}", 1⟩) (r := ⟨.get, "item/{n:int}", 3⟩) rfl rfl
    rfl hpattern
  exact ⟨hpattern, hshadowed.2⟩

end RouteServer.Route
