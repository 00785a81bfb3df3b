/-
  **Cutting text** — the first separator, a known beginning or ending, the first occurrence of a
  delimiter.

  A list of parts between separators is `List.splitOn` of the standard library.  The functions here
  cut once, and each says what it cut away: `splitFirst_eq_some` puts the separator back between
  the halves, `findFirst_eq_some` the delimiter.  A delimiter that is found is found at the same
  place whatever follows (`findFirst_append_right`).
-/

namespace RouteServer.Text

variable {α : Type} [DecidableEq α]

/-- The parts before and after the first `sep`, if there is one. -/
def splitFirst (sep : α) : List α → Option (List α × List α)
  | [] => none
  | c :: r =>
    if c = sep then some ([], r)
    else (splitFirst sep r).map fun h => (c :: h.1, h.2)

/-- The rest of `s` after `start`, if `s` begins with it. -/
def stripStart (start s : List α) : Option (List α) :=
  if start.isPrefixOf s then some (s.drop start.length) else none

/-- The rest of `s` before `tail`, if `s` ends with it. -/
def stripEnd (tail s : List α) : Option (List α) :=
  (stripStart tail.reverse s.reverse).map List.reverse

/-- What comes before and after the first occurrence of `needle`. -/
def findFirst (needle : List α) : List α → Option (List α × List α)
  | [] => if needle.isEmpty then some ([], []) else none
  | c :: r =>
    match stripStart needle (c :: r) with
    | some after => some ([], after)
    | none => (findFirst needle r).map fun h => (c :: h.1, h.2)

/-- A cut is at the first separator: the first part holds none. -/
theorem splitFirst_eq_some {sep : α} {s a b : List α} (h : splitFirst sep s = some (a, b)) :
    s = a ++ sep :: b ∧ sep ∉ a := by
  induction s generalizing a with
  | nil => simp [splitFirst] at h
  | cons c r ih =>
    simp only [splitFirst] at h
    split at h
    · rename_i hc
      simp only [Option.some.injEq, Prod.mk.injEq] at h
      obtain ⟨rfl, rfl⟩ := h
      simp [hc]
    · rename_i hc
      simp only [Option.map_eq_some_iff] at h
      obtain ⟨⟨x, y⟩, hxy, hab⟩ := h
      simp only [Prod.mk.injEq] at hab
      obtain ⟨rfl, rfl⟩ := hab
      obtain ⟨hr, hx⟩ := ih hxy
      refine ⟨by simp [hr], ?_⟩
      simp only [List.mem_cons, not_or]
      exact ⟨fun e => hc e.symm, hx⟩

theorem splitFirst_append {sep : α} {a : List α} (h : sep ∉ a) (b : List α) :
    splitFirst sep (a ++ sep :: b) = some (a, b) := by
  induction a with
  | nil => simp [splitFirst]
  | cons c r ih =>
    obtain ⟨hc, hr⟩ := List.ne_and_not_mem_of_not_mem_cons h
    rw [List.cons_append, splitFirst, if_neg (Ne.symm hc), ih hr]
    rfl

theorem splitFirst_eq_none_iff {sep : α} {s : List α} : splitFirst sep s = none ↔ sep ∉ s := by
  induction s with
  | nil => simp [splitFirst]
  | cons c r ih =>
    by_cases hc : c = sep
    · simp [splitFirst, hc]
    · simp [splitFirst, hc, Ne.symm hc, ih]

/-- Cut or not, what comes first is all that stands in front of the first separator. -/
theorem fst_getD_splitFirst (sep : α) (s after : List α) :
    ((splitFirst sep s).getD (s, after)).1 = s.takeWhile (· ≠ sep) := by
  induction s with
  | nil => rfl
  | cons c r ih =>
    by_cases hc : c = sep
    · simp [splitFirst, hc]
    · rw [List.takeWhile_cons_of_pos (by simpa using hc), ← ih, splitFirst, if_neg hc]
      cases splitFirst sep r <;> rfl

@[simp] theorem stripStart_nil (s : List α) : stripStart [] s = some s := rfl

@[simp] theorem stripStart_cons_nil (c : α) (start : List α) : stripStart (c :: start) [] = none :=
  rfl

theorem stripStart_cons_cons (c d : α) (start s : List α) :
    stripStart (c :: start) (d :: s) = if d = c then stripStart start s else none := by
  by_cases hd : d = c
  · subst hd
    simp [stripStart]
  · have hne : c ≠ d := fun heq => hd heq.symm
    simp [stripStart, hd, hne]

/-- What stands in front of both texts does not matter. -/
theorem stripStart_append_append (front start s : List α) :
    stripStart (front ++ start) (front ++ s) = stripStart start s := by
  induction front with
  | nil => rfl
  | cons c front ih => rw [List.cons_append, List.cons_append, stripStart_cons_cons, if_pos rfl, ih]

theorem stripStart_eq_some {start s r : List α} (h : stripStart start s = some r) :
    s = start ++ r := by
  simp only [stripStart] at h
  split at h
  · rename_i hp
    obtain ⟨t, rfl⟩ := List.isPrefixOf_iff_prefix.1 hp
    simp at h
    simp [h]
  · simp at h

theorem stripEnd_eq_some_iff {tail s r : List α} : stripEnd tail s = some r ↔ s = r ++ tail := by
  rw [stripEnd, Option.map_eq_some_iff]
  constructor
  · rintro ⟨x, hx, rfl⟩
    rw [← List.reverse_inj, stripStart_eq_some hx, List.reverse_append, List.reverse_reverse]
  · rintro rfl
    exact ⟨r.reverse, by simp [stripStart], List.reverse_reverse r⟩

/-- A delimiter that is found stands between what is before it and what is after it. -/
theorem findFirst_eq_some {needle s a b : List α} (h : findFirst needle s = some (a, b)) :
    s = a ++ needle ++ b := by
  induction s generalizing a with
  | nil =>
    simp only [findFirst] at h
    split at h
    · rename_i hn
      simp at h hn
      simp [h.1, h.2, hn]
    · simp at h
  | cons c r ih =>
    simp only [findFirst] at h
    split at h
    · rename_i hs
      simp only [Option.some.injEq, Prod.mk.injEq] at h
      obtain ⟨rfl, rfl⟩ := h
      simpa using stripStart_eq_some hs
    · simp only [Option.map_eq_some_iff] at h
      obtain ⟨⟨x, y⟩, hxy, hab⟩ := h
      simp only [Prod.mk.injEq] at hab
      obtain ⟨rfl, rfl⟩ := hab
      simp [ih hxy]

theorem findFirst_append_self (needle b : List α) :
    findFirst needle (needle ++ b) = some ([], b) := by
  have hstrip : stripStart needle (needle ++ b) = some b := by simp [stripStart]
  cases hs : needle ++ b with
  | nil =>
    obtain ⟨rfl, rfl⟩ := List.append_eq_nil_iff.1 hs
    rfl
  | cons c r => rw [findFirst, ← hs, hstrip]

theorem not_infix_of_findFirst_eq_none {needle s : List α} (h : findFirst needle s = none) :
    ¬ needle <:+: s := by
  induction s with
  | nil =>
    intro hinfix
    rw [List.infix_nil.1 hinfix] at h
    cases h
  | cons c r ih =>
    rw [findFirst] at h
    split at h
    · cases h
    · rename_i hnone
      rw [List.infix_cons_iff, not_or]
      constructor
      · rintro ⟨t, ht⟩
        rw [← ht] at hnone
        simp [stripStart] at hnone
      · exact ih (Option.map_eq_none_iff.1 h)

/-- A beginning that is found is found whatever follows. -/
theorem stripStart_append_right {start s r : List α} (h : stripStart start s = some r)
    (z : List α) : stripStart start (s ++ z) = some (r ++ z) := by
  rw [stripStart_eq_some h, List.append_assoc]
  simp [stripStart]

/-- So is the first occurrence of a delimiter: what follows brings no earlier one. -/
theorem findFirst_append_right {needle s a b : List α} (h : findFirst needle s = some (a, b))
    (z : List α) : findFirst needle (s ++ z) = some (a, b ++ z) := by
  induction s generalizing a with
  | nil =>
    have hempty := findFirst_eq_some h
    simp only [List.nil_eq, List.append_eq_nil_iff] at hempty
    obtain ⟨⟨rfl, rfl⟩, rfl⟩ := hempty
    exact findFirst_append_self [] z
  | cons c r ih =>
    rw [findFirst] at h
    rw [List.cons_append, findFirst]
    split at h
    · rename_i after hafter
      obtain ⟨rfl, rfl⟩ := Prod.mk.inj (Option.some.inj h)
      rw [← List.cons_append, stripStart_append_right hafter z]
    · rename_i hnone
      obtain ⟨⟨x, y⟩, hxy, hab⟩ := Option.map_eq_some_iff.1 h
      obtain ⟨rfl, rfl⟩ := Prod.mk.inj hab
      have hfits : needle.length ≤ (c :: r).length := by
        rw [findFirst_eq_some hxy]
        simp only [List.length_cons, List.length_append]
        omega
      -- an occurrence at this place would end before `r` does
      have hstill : stripStart needle (c :: (r ++ z)) = none := by
        rw [Option.eq_none_iff_forall_ne_some]
        intro t ht
        have hlonger : needle <+: (c :: r) ++ z := ⟨t, (stripStart_eq_some ht).symm⟩
        obtain ⟨u, hu⟩ :=
          List.prefix_of_prefix_length_le hlonger (List.prefix_append (c :: r) z) hfits
        rw [← hu] at hnone
        simp [stripStart] at hnone
      rw [hstill, ih hxy]
      rfl

/-- A delimiter is found behind a text if no occurrence of it ends before that one does. -/
theorem findFirst_append_of_not_infix {needle a : List α}
    (h : ¬ needle <:+: (a ++ needle).dropLast) (b : List α) :
    findFirst needle (a ++ (needle ++ b)) = some (a, b) := by
  cases hfirst : findFirst needle (a ++ needle) with
  | none =>
    exact absurd (List.suffix_append a needle).isInfix (not_infix_of_findFirst_eq_none hfirst)
  | some found =>
    obtain ⟨x, y⟩ := found
    have heq := findFirst_eq_some hfirst
    cases y with
    | nil =>
      rw [List.append_nil] at heq
      rw [← List.append_assoc, findFirst_append_right hfirst b, List.append_cancel_right heq]
      rfl
    | cons c y =>
      rw [heq, List.dropLast_append_of_ne_nil (List.cons_ne_nil c y)] at h
      exact absurd (List.infix_append x needle _) h

omit [DecidableEq α] in
/-- That is so for a delimiter whose first element comes only once in it, and a text that does not
    hold it: no occurrence can begin in the text and end in the delimiter. -/
theorem not_infix_dropLast {c : α} {n a : List α} (hc : c ∉ n) (ha : ¬ c :: n <:+: a) :
    ¬ c :: n <:+: (a ++ c :: n).dropLast := by
  rintro ⟨x, y, hxy⟩
  have hne : a ++ c :: n ≠ [] := by simp
  have hwhole : a ++ c :: n = x ++ (c :: n ++ (y ++ [(a ++ c :: n).getLast hne])) := by
    rw [← List.append_assoc, ← List.append_assoc, hxy, List.dropLast_concat_getLast]
  rcases List.append_eq_append_iff.1 hwhole with ⟨w, -, hw⟩ | ⟨w, rfl, hw⟩
  · have hlength := congrArg List.length hw
    simp only [List.length_append, List.length_cons, List.length_nil] at hlength
    omega
  · rcases List.append_eq_append_iff.1 hw with ⟨v, hv, -⟩ | ⟨v, hv, hend⟩
    · exact ha ⟨x, v, by rw [hv, List.append_assoc]⟩
    · cases v with
      | nil =>
        rw [List.append_nil] at hv
        exact ha ⟨x, [], by rw [hv, List.append_nil]⟩
      | cons d v =>
        obtain ⟨rfl, -⟩ := List.cons.inj hend
        cases w with
        | nil =>
          have hlength := congrArg List.length hw
          simp only [List.length_append, List.length_cons, List.length_nil] at hlength
          omega
        | cons e w =>
          obtain ⟨-, hn⟩ := List.cons.inj hv
          exact hc (by simp [hn])

/-- The first part is all that stands in front of the first separator. -/
theorem exists_splitOn_eq_cons (sep : α) (s : List α) :
    ∃ more, s.splitOn sep = s.takeWhile (· ≠ sep) :: more := by
  induction s with
  | nil => exact ⟨[], by simp⟩
  | cons c s ih =>
    obtain ⟨more, hmore⟩ := ih
    rw [List.splitOn_cons_eq_if_modifyHead, hmore]
    by_cases hc : c = sep
    · exact ⟨s.takeWhile (· ≠ sep) :: more, by simp [hc]⟩
    · exact ⟨more, by simp [hc]⟩

/-- A text that does not begin with the separator begins as its first part does. -/
theorem exists_splitOn_cons {sep c : α} (h : c ≠ sep) (s : List α) :
    ∃ part more, (c :: s).splitOn sep = (c :: part) :: more := by
  obtain ⟨more, hmore⟩ := exists_splitOn_eq_cons sep (c :: s)
  rw [List.takeWhile_cons_of_pos (by simpa using h)] at hmore
  exact ⟨_, _, hmore⟩

/-- No part between separators holds one. -/
theorem not_mem_of_mem_splitOn {sep : α} {s x : List α} (h : x ∈ s.splitOn sep) : sep ∉ x := by
  induction s generalizing x with
  | nil =>
    obtain rfl : x = [] := by simpa using h
    exact List.not_mem_nil
  | cons c r ih =>
    rw [List.splitOn_cons_eq_if_modifyHead] at h
    cases hr : r.splitOn sep with
    | nil => exact absurd hr (List.splitOn_ne_nil _ _)
    | cons y ys =>
      rw [hr] at h ih
      by_cases hc : c = sep
      · rw [if_pos (by simpa using hc), List.mem_cons] at h
        rcases h with rfl | h
        · exact List.not_mem_nil
        · exact ih h
      · rw [if_neg (by simpa using hc), List.modifyHead_cons, List.mem_cons] at h
        rcases h with rfl | h
        · have hy := ih List.mem_cons_self
          simpa [hy] using Ne.symm hc
        · exact ih (List.mem_cons_of_mem _ h)

end RouteServer.Text
