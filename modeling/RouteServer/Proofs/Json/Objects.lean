import RouteServer.Json.Value
import Mathlib.Data.String.Basic

/-
  **Objects as sorted lists** — what the fields of an object are, in whichever order they are given.

  Fields are put in one after another, and each finds its place behind all smaller keys
  (`Sorted.insertField`).  Of fields with distinct keys none replaces another, so an object holds
  exactly the fields it was given (`object_perm`), and fields that are sorted already stay as they
  are (`object_of_sorted`).
-/

namespace RouteServer.Json

/-- Fields as an object keeps them: by ascending keys, and so with one field for a key. -/
def Sorted (fields : List (String × Json)) : Prop := fields.Pairwise fun f g => f.1 < g.1

variable {key : String} {v : Json} {f : String × Json} {fields kept : List (String × Json)}

theorem eq_or_mem_of_mem_insertField (h : f ∈ insertField key v fields) :
    f.1 = key ∨ f ∈ fields := by
  fun_induction insertField key v fields with
  | case1 =>
    rw [List.mem_singleton.1 h]
    exact Or.inl rfl
  | case2 w r =>
    rcases List.mem_cons.1 h with rfl | hr
    · exact Or.inl rfl
    · exact Or.inr (List.mem_cons_of_mem _ hr)
  | case3 k w r _ _ =>
    rcases List.mem_cons.1 h with rfl | hr
    · exact Or.inl rfl
    · exact Or.inr hr
  | case4 k w r _ _ ih =>
    rcases List.mem_cons.1 h with rfl | hr
    · exact Or.inr List.mem_cons_self
    · rcases ih hr with hkey | hmem
      · exact Or.inl hkey
      · exact Or.inr (List.mem_cons_of_mem _ hmem)

theorem Sorted.insertField (h : Sorted fields) (key : String) (v : Json) :
    Sorted (insertField key v fields) := by
  fun_induction Json.insertField key v fields with
  | case1 => exact List.pairwise_singleton _ _
  | case2 w r =>
    obtain ⟨hfirst, hrest⟩ := List.pairwise_cons.1 h
    exact List.pairwise_cons.2 ⟨hfirst, hrest⟩
  | case3 k w r _ hlt =>
    obtain ⟨hfirst, -⟩ := List.pairwise_cons.1 h
    refine List.pairwise_cons.2 ⟨?_, h⟩
    intro f hf
    rcases List.mem_cons.1 hf with rfl | hf
    · exact hlt
    · exact lt_trans hlt (hfirst f hf)
  | case4 k w r hne hlt ih =>
    obtain ⟨hfirst, hrest⟩ := List.pairwise_cons.1 h
    refine List.pairwise_cons.2 ⟨?_, ih hrest⟩
    intro f hf
    rcases eq_or_mem_of_mem_insertField hf with hkey | hf
    · rw [hkey]
      exact lt_of_le_of_ne (not_lt.1 hlt) (Ne.symm hne)
    · exact hfirst f hf

theorem insertField_perm (hnew : key ∉ fields.map (·.1)) :
    (insertField key v fields).Perm ((key, v) :: fields) := by
  fun_induction insertField key v fields with
  | case1 => exact List.Perm.refl _
  | case2 w r => exact absurd List.mem_cons_self hnew
  | case3 k w r _ _ => exact List.Perm.refl _
  | case4 k w r _ _ ih =>
    have hrest : key ∉ r.map (·.1) := fun hmem => hnew (List.mem_cons_of_mem _ hmem)
    exact ((ih hrest).cons (k, w)).trans (List.Perm.swap _ _ _)

theorem insertField_of_lt (h : ∀ f ∈ fields, f.1 < key) :
    insertField key v fields = fields ++ [(key, v)] := by
  fun_induction insertField key v fields with
  | case1 => rfl
  | case2 w r => exact absurd (h (key, w) List.mem_cons_self) (lt_irrefl key)
  | case3 k w r _ hlt => exact absurd (h (k, w) List.mem_cons_self) (lt_asymm hlt)
  | case4 k w r _ _ ih =>
    rw [ih fun f hf => h f (List.mem_cons_of_mem _ hf)]
    rfl

/-! ### Whole objects -/

/-- All these fields put into fields that are there already. -/
def insertFields (kept fields : List (String × Json)) : List (String × Json) :=
  fields.foldl (fun acc f => insertField f.1 f.2 acc) kept

theorem object_eq (fields : List (String × Json)) : object fields = .obj (insertFields [] fields) :=
  rfl

theorem insertFields_perm (hkept : Sorted kept) (hkeys : ((kept ++ fields).map (·.1)).Nodup) :
    Sorted (insertFields kept fields) ∧ (insertFields kept fields).Perm (kept ++ fields) := by
  induction fields generalizing kept with
  | nil => exact ⟨hkept, List.Perm.of_eq (List.append_nil kept).symm⟩
  | cons f fields ih =>
    have hmoved : (kept ++ f :: fields).Perm (f :: kept ++ fields) := List.perm_middle
    have hdistinct : ((f :: kept ++ fields).map (·.1)).Nodup := (hmoved.map _).nodup_iff.1 hkeys
    have hnew : f.1 ∉ kept.map (·.1) := by
      intro hmem
      rw [List.cons_append, List.map_cons, List.map_append] at hdistinct
      exact (List.nodup_cons.1 hdistinct).1 (List.mem_append_left _ hmem)
    have hstep : (insertField f.1 f.2 kept ++ fields).Perm (f :: kept ++ fields) :=
      (insertField_perm hnew).append_right fields
    obtain ⟨hsorted, hperm⟩ :=
      ih (hkept.insertField f.1 f.2) ((hstep.map _).nodup_iff.2 hdistinct)
    exact ⟨hsorted, hperm.trans (hstep.trans hmoved.symm)⟩

/-- Fields with distinct keys are all in their object, and nothing else is. -/
theorem object_perm (hkeys : (fields.map (·.1)).Nodup) :
    ∃ kept, object fields = .obj kept ∧ Sorted kept ∧ kept.Perm fields := by
  have hempty : Sorted [] := List.Pairwise.nil
  obtain ⟨hsorted, hperm⟩ := insertFields_perm hempty hkeys
  exact ⟨insertFields [] fields, object_eq fields, hsorted, hperm⟩

theorem insertFields_of_sorted (h : Sorted (kept ++ fields)) :
    insertFields kept fields = kept ++ fields := by
  induction fields generalizing kept with
  | nil => exact (List.append_nil kept).symm
  | cons f fields ih =>
    obtain ⟨-, -, hbetween⟩ := List.pairwise_append.1 h
    have hlast : insertField f.1 f.2 kept = kept ++ [f] :=
      insertField_of_lt fun g hg => hbetween g hg f List.mem_cons_self
    have hmoved : kept ++ f :: fields = kept ++ [f] ++ fields := List.append_cons kept f fields
    rw [hmoved] at h ⊢
    rw [← ih h, ← hlast]
    rfl

theorem object_of_sorted (h : Sorted fields) : object fields = .obj fields := by
  rw [object_eq, insertFields_of_sorted (show Sorted ([] ++ fields) from h)]
  rfl

end RouteServer.Json
