import Mathlib.Data.List.Induction
import Mathlib.Data.List.Nodup
import RouteServer.Http.Fields

/-
  **Repeated names** — what a map of fields keeps of a list in which names occur again.

  `get?_ofList_eq_some_iff` says which value of a name is kept, and `nodup_names_ofList` that the
  map holds nothing beside it: together they fix the map that a list of pairs becomes, up to the
  order of its entries.

  A map can also be asked for a name in any case.  As long as the names in it differ and are in
  lower case (`Folded`), no two entries fit what is asked for, and the one that is found does not
  depend on the order of the entries.
-/

namespace RouteServer.Fields

variable {name value : String} {es pairs : List (String × String)}

theorem ofList_concat (pairs : List (String × String)) (p : String × String) :
    ofList (pairs ++ [p]) = (ofList pairs).insert p.1 p.2 := by
  rw [ofList, List.foldl_append]
  rfl

theorem get?_ofList (pairs : List (String × String)) (name : String) :
    (ofList pairs).get? name = lookup name pairs.reverse := by
  induction pairs using List.reverseRecOn with
  | nil => rfl
  | append_singleton pairs p ih =>
    rw [ofList_concat, get?_insert, ih, List.reverse_append]
    rfl

theorem lookup_eq_some_iff :
    lookup name es = some value ↔
      ∃ before after, es = before ++ (name, value) :: after ∧ ∀ e ∈ before, e.1 ≠ name := by
  induction es with
  | nil => simp [lookup]
  | cons e es ih =>
    obtain ⟨n, v⟩ := e
    by_cases hn : n = name
    · subst hn
      rw [lookup, if_pos rfl, Option.some.injEq]
      constructor
      · rintro rfl
        exact ⟨[], es, rfl, by simp⟩
      · rintro ⟨before, after, heq, hbefore⟩
        -- the first entry has the name, so nothing can stand before the one that was found
        cases before with
        | nil => exact (Prod.mk.inj (List.cons.inj heq).1).2
        | cons b before =>
          have hb : b.1 = n := (congrArg Prod.fst (List.cons.inj heq).1).symm
          exact absurd hb (hbefore b List.mem_cons_self)
    · rw [lookup, if_neg hn, ih]
      constructor
      · rintro ⟨before, after, rfl, hbefore⟩
        exact ⟨(n, v) :: before, after, rfl, by simpa [hn] using hbefore⟩
      · rintro ⟨before, after, heq, hbefore⟩
        cases before with
        | nil => exact absurd (congrArg Prod.fst (List.cons.inj heq).1) hn
        | cons b before =>
          exact ⟨before, after, (List.cons.inj heq).2, fun e he =>
            hbefore e (List.mem_cons_of_mem b he)⟩

theorem lookup_eq_none_iff : lookup name es = none ↔ name ∉ es.map (·.1) := by
  induction es with
  | nil => simp [lookup]
  | cons e es ih =>
    rw [lookup, List.map_cons, List.mem_cons, not_or]
    by_cases hn : e.1 = name
    · simp [hn]
    · rw [if_neg hn, ih]
      exact ⟨fun hrest => ⟨Ne.symm hn, hrest⟩, And.right⟩

/-- A name has the value of its last pair. -/
theorem get?_ofList_eq_some_iff :
    (ofList pairs).get? name = some value ↔
      ∃ before after, pairs = before ++ (name, value) :: after ∧ ∀ p ∈ after, p.1 ≠ name := by
  rw [get?_ofList, lookup_eq_some_iff]
  constructor
  · rintro ⟨later, earlier, heq, hlater⟩
    refine ⟨earlier.reverse, later.reverse, ?_, by simpa using hlater⟩
    rw [← List.reverse_reverse pairs, heq]
    simp
  · rintro ⟨before, after, rfl, hafter⟩
    exact ⟨after.reverse, before.reverse, by simp, by simpa using hafter⟩

theorem names_insertEntry (name value : String) (es : List (String × String)) :
    (insertEntry name value es).map (·.1) =
      if name ∈ es.map (·.1) then es.map (·.1) else es.map (·.1) ++ [name] := by
  induction es with
  | nil => rfl
  | cons e es ih =>
    obtain ⟨n, v⟩ := e
    by_cases hn : n = name
    · simp [insertEntry, hn]
    · rw [insertEntry, if_neg hn, List.map_cons, ih, List.map_cons]
      by_cases hmem : name ∈ es.map (·.1)
      · rw [if_pos hmem, if_pos (List.mem_cons_of_mem n hmem)]
      · have hnot : name ∉ n :: es.map (·.1) := by
          rw [List.mem_cons, not_or]
          exact ⟨Ne.symm hn, hmem⟩
        rw [if_neg hmem, if_neg hnot, List.cons_append]

/-- The map has the names of the pairs. -/
theorem mem_names_ofList :
    name ∈ (ofList pairs).entries.map (·.1) ↔ name ∈ pairs.map (·.1) := by
  induction pairs using List.reverseRecOn with
  | nil => exact Iff.rfl
  | append_singleton pairs p ih =>
    rw [ofList_concat, insert, names_insertEntry, List.map_append, List.mem_append, ← ih]
    split
    · rename_i hold
      constructor
      · exact Or.inl
      · rintro (hname | hname)
        · exact hname
        · exact List.mem_singleton.1 hname ▸ hold
    · exact List.mem_append

theorem nodup_names_ofList (pairs : List (String × String)) :
    ((ofList pairs).entries.map (·.1)).Nodup := by
  induction pairs using List.reverseRecOn with
  | nil => exact List.nodup_nil
  | append_singleton pairs p ih =>
    rw [ofList_concat, insert, names_insertEntry]
    split
    · exact ih
    · rename_i hnew
      refine List.nodup_append.2 ⟨ih, List.pairwise_singleton _ _, ?_⟩
      rintro a ha b hb rfl
      exact hnew (List.mem_singleton.1 hb ▸ ha)

/-! ### Names in any case -/

theorem lookup_eq_some_iff_mem (hnodup : (es.map (·.1)).Nodup) :
    lookup name es = some value ↔ (name, value) ∈ es := by
  rw [lookup_eq_some_iff]
  constructor
  · rintro ⟨before, after, rfl, -⟩
    exact List.mem_append_right _ List.mem_cons_self
  · intro hmem
    obtain ⟨before, after, rfl⟩ := List.append_of_mem hmem
    refine ⟨before, after, rfl, ?_⟩
    intro e he hname
    rw [List.map_append, List.map_cons, List.nodup_append] at hnodup
    exact hnodup.2.2 e.1 (List.mem_map_of_mem he) name List.mem_cons_self hname

/-- The names differ, and all of them are in lower case. -/
structure Folded (f : Fields) : Prop where
  nodup : (f.entries.map (·.1)).Nodup
  lower : ∀ e ∈ f.entries, Text.asciiLowerString e.1 = e.1

namespace Folded

variable {f g : Fields}

theorem perm (h : f.Folded) (hperm : g.entries.Perm f.entries) : g.Folded where
  nodup := (hperm.map _).nodup_iff.2 h.nodup
  lower := fun e he => h.lower e (hperm.mem_iff.1 he)

theorem eq_of_fits (h : f.Folded) {e e' : String × String} (he : e ∈ f.entries)
    (he' : e' ∈ f.entries) (hfits : Text.sameIgnoringCase e.1 name = true)
    (hfits' : Text.sameIgnoringCase e'.1 name = true) : e = e' := by
  rw [Text.sameIgnoringCase, beq_iff_eq, h.lower e he] at hfits
  rw [Text.sameIgnoringCase, beq_iff_eq, h.lower e' he'] at hfits'
  exact List.inj_on_of_nodup_map h.nodup he he' (hfits.trans hfits'.symm)

theorem getIgnoringCase?_eq_some_iff (h : f.Folded) :
    f.getIgnoringCase? name = some value ↔ (Text.asciiLowerString name, value) ∈ f.entries := by
  rw [getIgnoringCase?, Option.map_eq_some_iff]
  constructor
  · rintro ⟨e, hfound, rfl⟩
    have hmem := List.mem_of_find?_eq_some hfound
    have hfits := List.find?_some hfound
    rw [Text.sameIgnoringCase, beq_iff_eq, h.lower e hmem] at hfits
    rwa [← hfits]
  · intro hmem
    have hlower : Text.asciiLowerString (Text.asciiLowerString name) = Text.asciiLowerString name :=
      h.lower (Text.asciiLowerString name, value) hmem
    have hfits : Text.sameIgnoringCase (Text.asciiLowerString name) name = true := by
      rw [Text.sameIgnoringCase, hlower, beq_self_eq_true]
    cases hfound : f.entries.find? fun e => Text.sameIgnoringCase e.1 name with
    | none =>
      have hnone := List.find?_eq_none.1 hfound (Text.asciiLowerString name, value) hmem
      exact absurd hfits hnone
    | some e =>
      have hthis := List.find?_some hfound
      have he : e = (Text.asciiLowerString name, value) :=
        h.eq_of_fits (List.mem_of_find?_eq_some hfound) hmem hthis hfits
      exact ⟨e, rfl, congrArg Prod.snd he⟩

/-- Whatever the case that is asked for, it is the entry of the lower-case name that is found. -/
theorem getIgnoringCase?_eq (h : f.Folded) (name : String) :
    f.getIgnoringCase? name = f.get? (Text.asciiLowerString name) := by
  apply Option.ext
  intro value
  rw [h.getIgnoringCase?_eq_some_iff, get?, lookup_eq_some_iff_mem h.nodup]

theorem get?_perm (h : f.Folded) (hperm : g.entries.Perm f.entries) (name : String) :
    g.get? name = f.get? name := by
  apply Option.ext
  intro value
  rw [get?, get?, lookup_eq_some_iff_mem (h.perm hperm).nodup, lookup_eq_some_iff_mem h.nodup,
    hperm.mem_iff]

theorem getIgnoringCase?_perm (h : f.Folded) (hperm : g.entries.Perm f.entries) (name : String) :
    g.getIgnoringCase? name = f.getIgnoringCase? name := by
  rw [(h.perm hperm).getIgnoringCase?_eq, h.getIgnoringCase?_eq, h.get?_perm hperm]

end Folded

end RouteServer.Fields
