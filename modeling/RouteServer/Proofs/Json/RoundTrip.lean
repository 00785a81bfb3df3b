import RouteServer.Proofs.Json.Objects
import RouteServer.Proofs.Json.Tokens
import RouteServer.Proofs.Text.Utf8

/-
  **Values there and back** — a value that was printed is read as itself.

  The text of a value is read in front of any rest that can follow a value (`Reads`), with as many
  steps as the text has characters.  Items and fields are read by induction on their list, since a
  comma or the closing bracket behind each of them is such a rest.  An object is built again from
  the fields that were read, and since it printed them sorted they make the same object.
-/

namespace RouteServer.Json

/-- A value built from null, truth values, whole numbers that fit 64 bits with a sign or without,
    texts, arrays and objects with distinct keys, nested at most `depth` deep. -/
inductive Exact : Nat → Json → Prop
  | null {depth} : Exact depth .null
  | bool {depth} (b : Bool) : Exact depth (.bool b)
  | int {depth} {n : Int} : -2 ^ 63 ≤ n → n < 2 ^ 64 → Exact depth (.int n)
  | str {depth} (s : String) : Exact depth (.str s)
  | arr {depth items} : (∀ v ∈ items, Exact depth v) → Exact (depth + 1) (.arr items)
  | object {depth fields} : (fields.map (·.1)).Nodup → (∀ f ∈ fields, Exact depth f.2) →
      Exact (depth + 1) (object fields)

variable {depth fuel : Nat} {v : Json} {k : String} {c : Char} {r s : List Char}
  {items : List Json} {fields : List (String × Json)}

/-! ### How values begin -/

theorem skipSpace_cons (h : isSpace c = false) (s : List Char) : skipSpace (c :: s) = c :: s := by
  simp [skipSpace, h]

theorem isSpace_eq_false (h : c = '-' ∨ c.isDigit = true) : isSpace c = false := by
  have hne {d : Char} (hd : ¬ (d = '-' ∨ d.isDigit = true)) : c ≠ d := by
    rintro rfl
    exact hd h
  simp [isSpace, hne]

/-- A value begins with a character that is neither a space nor the end of an array. -/
theorem Exact.exists_print_eq (h : Exact depth v) :
    ∃ c s, v.print = c :: s ∧ isSpace c = false ∧ c ≠ ']' := by
  cases h with
  | null => exact ⟨'n', _, rfl, by decide, by decide⟩
  | bool b =>
    cases b with
    | true => exact ⟨'t', _, rfl, by decide, by decide⟩
    | false => exact ⟨'f', _, rfl, by decide, by decide⟩
  | @int _ n _ _ =>
    obtain ⟨c, s, hn, hc⟩ := exists_intText_eq n
    refine ⟨c, s, hn, isSpace_eq_false hc, ?_⟩
    rintro rfl
    exact absurd hc (by decide)
  | str s => exact ⟨'"', _, rfl, by decide, by decide⟩
  | arr _ => exact ⟨'[', _, rfl, by decide, by decide⟩
  | object _ _ => exact ⟨'{', _, rfl, by decide, by decide⟩

/-! ### One step of the readers -/

theorem value?_str (s r : List Char) :
    value? (fuel + 1) depth (quoted s ++ r) = some (.str (String.ofList s), r) := by
  obtain ⟨t, hquoted, hrest⟩ := exists_quoted_append_eq s r
  rw [hquoted, value?, skipSpace_cons (by decide)]
  simp only [hrest, Option.map_some]

theorem value?_number (h : c = '-' ∨ c.isDigit = true) :
    value? (fuel + 1) depth (c :: s) = number? (c :: s) := by
  have hopens {d : Char} {t : List Char} (hd : ¬ (d = '-' ∨ d.isDigit = true)) :
      c :: s ≠ d :: t := by
    intro heq
    rw [(List.cons.inj heq).1] at h
    exact hd h
  rw [value?, skipSpace_cons (isSpace_eq_false h)]
  split
  case h_7 => rfl
  -- every other value opens with a letter, a quote or a bracket
  all_goals
    rename_i heq
    exact absurd heq (hopens (by decide))

theorem value?_items (hspace : isSpace c = false) (hopen : c ≠ ']') :
    value? (fuel + 1) (depth + 1) ('[' :: c :: s) =
      (items? fuel depth (c :: s)).map fun h => (.arr h.1, h.2) := by
  rw [value?, skipSpace_cons (by decide)]
  simp only [Nat.add_one_ne_zero, if_false, skipSpace_cons hspace]
  split
  · case h_1 heq => exact absurd (List.cons.inj heq).1 hopen
  · rfl

theorem value?_fields :
    value? (fuel + 1) (depth + 1) ('{' :: '"' :: s) =
      (fields? fuel depth ('"' :: s)).map fun h => (object h.1, h.2) :=
  rfl

theorem items?_last (h : value? fuel depth s = some (v, ']' :: r)) :
    items? (fuel + 1) depth s = some ([v], r) := by
  rw [items?, h]
  rfl

theorem items?_more (h : value? fuel depth s = some (v, ',' :: r)) :
    items? (fuel + 1) depth s = (items? fuel depth r).map fun h => (v :: h.1, h.2) := by
  rw [items?, h]
  rfl

theorem fields?_last (h : value? fuel depth s = some (v, '}' :: r)) :
    fields? (fuel + 1) depth (quoted k.toList ++ ':' :: s) = some ([(k, v)], r) := by
  obtain ⟨t, hquoted, hrest⟩ := exists_quoted_append_eq k.toList (':' :: s)
  rw [hquoted, fields?, skipSpace_cons (by decide)]
  simp only [hrest, skipSpace_cons (show isSpace ':' = false by decide), h,
    skipSpace_cons (show isSpace '}' = false by decide), String.ofList_toList]

theorem fields?_more (h : value? fuel depth s = some (v, ',' :: r)) :
    fields? (fuel + 1) depth (quoted k.toList ++ ':' :: s) =
      (fields? fuel depth r).map fun h => ((k, v) :: h.1, h.2) := by
  obtain ⟨t, hquoted, hrest⟩ := exists_quoted_append_eq k.toList (':' :: s)
  rw [hquoted, fields?, skipSpace_cons (by decide)]
  simp only [hrest, skipSpace_cons (show isSpace ':' = false by decide), h,
    skipSpace_cons (show isSpace ',' = false by decide), String.ofList_toList]

/-! ### Whole values -/

/-- The printed value is read as itself in front of every rest that can follow a value. -/
def Reads (depth : Nat) (v : Json) : Prop :=
  ∀ fuel r, v.print.length ≤ fuel → Ended r → value? fuel depth (v.print ++ r) = some (v, r)

theorem ended_cons (h : c = ',' ∨ c = ']' ∨ c = '}') (r : List Char) : Ended (c :: r) := by
  intro d hd
  rw [← Option.some.inj hd]
  exact h

theorem items?_printItems (hne : items ≠ []) (h : ∀ v ∈ items, Reads depth v)
    (hfuel : (printItems items).length < fuel) :
    items? fuel depth (printItems items ++ ']' :: r) = some (items, r) := by
  induction items generalizing fuel with
  | nil => exact absurd rfl hne
  | cons v rest ih =>
    obtain ⟨fuel, rfl⟩ := Nat.exists_eq_add_one_of_ne_zero (Nat.ne_zero_of_lt hfuel)
    have hv := h v List.mem_cons_self
    cases rest with
    | nil =>
      apply items?_last
      exact hv fuel _ (Nat.le_of_lt_succ hfuel) (ended_cons (by decide) r)
    | cons w rest =>
      rw [printItems, List.length_append, List.length_cons] at hfuel
      have hlast :
          items? fuel depth (printItems (w :: rest) ++ ']' :: r) = some (w :: rest, r) := by
        apply ih (List.cons_ne_nil w rest)
        · exact fun u hu => h u (List.mem_cons_of_mem v hu)
        · omega
      rw [printItems, List.append_assoc, List.cons_append, items?_more, hlast]
      · rfl
      · apply hv
        · omega
        · exact ended_cons (by decide) _

theorem fields?_printFields (hne : fields ≠ []) (h : ∀ f ∈ fields, Reads depth f.2)
    (hfuel : (printFields fields).length < fuel) :
    fields? fuel depth (printFields fields ++ '}' :: r) = some (fields, r) := by
  induction fields generalizing fuel with
  | nil => exact absurd rfl hne
  | cons f rest ih =>
    obtain ⟨fuel, rfl⟩ := Nat.exists_eq_add_one_of_ne_zero (Nat.ne_zero_of_lt hfuel)
    obtain ⟨k, v⟩ := f
    have hv : Reads depth v := h (k, v) List.mem_cons_self
    cases rest with
    | nil =>
      rw [printFields, List.length_append, List.length_cons] at hfuel
      rw [printFields, List.append_assoc, List.cons_append, fields?_last]
      apply hv
      · omega
      · exact ended_cons (by decide) r
    | cons g rest =>
      rw [printFields, List.length_append, List.length_cons, List.length_append,
        List.length_cons] at hfuel
      have hlast : fields? fuel depth (printFields (g :: rest) ++ '}' :: r) =
          some (g :: rest, r) := by
        apply ih (List.cons_ne_nil g rest)
        · exact fun f hf => h f (List.mem_cons_of_mem _ hf)
        · omega
      rw [printFields, List.append_assoc, List.cons_append, List.append_assoc, List.cons_append,
        fields?_more, hlast]
      · rfl
      · apply hv
        · omega
        · exact ended_cons (by decide) _

theorem value?_arr (hitems : ∀ v ∈ items, Exact depth v) (h : ∀ v ∈ items, Reads depth v)
    (hfuel : (printItems items).length < fuel) :
    value? (fuel + 1) (depth + 1) (print (.arr items) ++ r) = some (.arr items, r) := by
  rw [print, List.cons_append, List.append_assoc, List.singleton_append]
  cases items with
  | nil => rfl
  | cons v rest =>
    obtain ⟨c, s, hfirst, hspace, hopen⟩ : ∃ c s, printItems (v :: rest) ++ ']' :: r = c :: s ∧
        isSpace c = false ∧ c ≠ ']' := by
      obtain ⟨c, s, hprint, hc⟩ := (hitems v List.mem_cons_self).exists_print_eq
      cases rest with
      | nil => exact ⟨c, _, congrArg (· ++ ']' :: r) hprint, hc⟩
      | cons w rest =>
        rw [printItems, hprint]
        exact ⟨c, _, rfl, hc⟩
    have hread := items?_printItems (r := r) (List.cons_ne_nil v rest) h hfuel
    rw [hfirst] at hread ⊢
    rw [value?_items hspace hopen, hread]
    rfl

theorem value?_obj (hsorted : Sorted fields) (h : ∀ f ∈ fields, Reads depth f.2)
    (hfuel : (printFields fields).length < fuel) :
    value? (fuel + 1) (depth + 1) (print (.obj fields) ++ r) = some (.obj fields, r) := by
  rw [print, List.cons_append, List.append_assoc, List.singleton_append]
  cases fields with
  | nil => rfl
  | cons f rest =>
    obtain ⟨s, hfirst⟩ : ∃ s, printFields (f :: rest) ++ '}' :: r = '"' :: s := by
      cases rest with
      | nil => exact ⟨_, rfl⟩
      | cons g rest => exact ⟨_, rfl⟩
    have hread := fields?_printFields (r := r) (List.cons_ne_nil f rest) h hfuel
    rw [hfirst] at hread ⊢
    rw [value?_fields, hread]
    exact congrArg (fun o => some (o, r)) (object_of_sorted hsorted)

/-- The text of a value is not empty, so there is a step to read it with. -/
theorem Exact.reads_of_step (hexact : Exact depth v)
    (h : ∀ fuel r, v.print.length ≤ fuel + 1 → Ended r →
      value? (fuel + 1) depth (v.print ++ r) = some (v, r)) : Reads depth v := by
  intro fuel r hfuel hr
  have hpos : fuel ≠ 0 := by
    obtain ⟨c, s, hprint, -, -⟩ := hexact.exists_print_eq
    rw [hprint, List.length_cons] at hfuel
    exact Nat.ne_zero_of_lt hfuel
  obtain ⟨fuel, rfl⟩ := Nat.exists_eq_add_one_of_ne_zero hpos
  exact h fuel r hfuel hr

theorem Exact.reads (h : Exact depth v) : Reads depth v := by
  induction h with
  | null => exact Exact.null.reads_of_step fun _ _ _ _ => rfl
  | bool b =>
    cases b with
    | true => exact (Exact.bool true).reads_of_step fun _ _ _ _ => rfl
    | false => exact (Exact.bool false).reads_of_step fun _ _ _ _ => rfl
  | @int _ n hlow hhigh =>
    apply (Exact.int hlow hhigh).reads_of_step
    intro fuel r _ hr
    obtain ⟨c, s, hn, hc⟩ := exists_intText_eq n
    rw [print, hn, List.cons_append, value?_number hc, ← List.cons_append, ← hn]
    exact number?_intText hlow hhigh hr
  | str s =>
    apply (Exact.str s).reads_of_step
    intro fuel r _ _
    rw [print, value?_str, String.ofList_toList]
  | arr hitems ih =>
    apply (Exact.arr hitems).reads_of_step
    intro fuel r hfuel _
    apply value?_arr hitems ih
    rw [print, List.length_cons, List.length_append, List.length_singleton] at hfuel
    omega
  | object hkeys hfields ih =>
    apply (Exact.object hkeys hfields).reads_of_step
    -- what is printed are the same fields in the order of their keys
    obtain ⟨kept, hobject, hsorted, hperm⟩ := object_perm hkeys
    rw [hobject]
    intro fuel r hfuel _
    apply value?_obj hsorted fun f hf => ih f (hperm.mem_iff.1 hf)
    rw [print, List.length_cons, List.length_append, List.length_singleton] at hfuel
    omega

/-- **Printing and reading.**  A value without doubles whose whole numbers fit 64 bits is read from
    its text as itself. -/
theorem Exact.parseTo?_print (h : Exact depth v) : parseTo? depth v.print = some v := by
  have hfuel : v.print.length ≤ 2 * v.print.length + 2 := by omega
  have hread := h.reads _ [] hfuel ended_nil
  rw [List.append_nil] at hread
  rw [parseTo?, hread]
  rfl

theorem Exact.parseBytes?_toBytes (h : Exact maxDepth v) : parseBytes? v.toBytes = some v := by
  rw [parseBytes?, toBytes, Text.Utf8.decode?_encode]
  exact h.parseTo?_print

end RouteServer.Json
