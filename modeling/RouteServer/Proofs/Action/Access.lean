import RouteServer.Action.Params
import RouteServer.Proofs.Text.Numeral

/-
  **Access to any parameters** — what the accessors answer when values and placeholders need not
  belong together.

  A routed request has a value for each placeholder, but the accessors are total: there may be more
  of one than of the other, names may repeat, and a value may be any text.  An integer is then
  missing, read, or refused with its text and the name declared at its position; the text alone
  decides whether it is read (`Text.Numeral.signed64?_eq_some_iff`).  A name is looked up from the
  end, among the positions that have both a placeholder and a value (`named_iff_exists_pair`).
-/

namespace RouteServer.PathParams

open Text.Numeral (WritesInteger Fits64)

variable {p : PathParams} {i : Nat}

/-! ### Integers -/

theorem text_eq_ok_iff {value : String} : p.text i = .ok value ↔ p.values[i]? = some value := by
  rw [text]
  cases p.values[i]? <;> simp

theorem text_of_length_le (h : p.values.length ≤ i) : p.text i = .error (.missing i) := by
  rw [text, List.getElem?_eq_none_iff.2 h]

theorem int_of_length_le (h : p.values.length ≤ i) : p.int i = .error (.missing i) := by
  rw [int, text_of_length_le h]

/-- A value is read if it writes an integer of 64 bits. -/
theorem int_of_writes {value : String} {n : Int} (hvalue : p.values[i]? = some value)
    (hn : WritesInteger value.toList n) (hfits : Fits64 n) : p.int i = .ok n := by
  rw [int, text_eq_ok_iff.2 hvalue]
  simp only [Text.Numeral.signed64?_eq_some_iff.2 ⟨hn, hfits⟩]

theorem int_of_not_writes {value : String} (hvalue : p.values[i]? = some value)
    (hnone : ∀ n, WritesInteger value.toList n → ¬ Fits64 n) :
    p.int i = .error (.notAnInteger (p.nameAt i) value) := by
  have hunread : Text.Numeral.signed64? value.toList = none := by
    rw [Option.eq_none_iff_forall_ne_some]
    intro n hn
    obtain ⟨hwrites, hfits⟩ := Text.Numeral.signed64?_eq_some_iff.1 hn
    exact hnone n hwrites hfits
  rw [int, text_eq_ok_iff.2 hvalue]
  simp only [hunread]

/-- One of three things happens. -/
theorem int_cases (p : PathParams) (i : Nat) :
    (p.values.length ≤ i ∧ p.int i = .error (.missing i)) ∨
    ∃ value, p.values[i]? = some value ∧
      ((∃ n, WritesInteger value.toList n ∧ Fits64 n ∧ p.int i = .ok n) ∨
        ((∀ n, WritesInteger value.toList n → ¬ Fits64 n) ∧
          p.int i = .error (.notAnInteger (p.nameAt i) value))) := by
  rcases Nat.lt_or_ge i p.values.length with hi | hi
  · refine Or.inr ⟨p.values[i], List.getElem?_eq_getElem hi, ?_⟩
    have hvalue : p.values[i]? = some p.values[i] := List.getElem?_eq_getElem hi
    by_cases hn : ∃ n, WritesInteger p.values[i].toList n ∧ Fits64 n
    · obtain ⟨n, hwrites, hfits⟩ := hn
      exact Or.inl ⟨n, hwrites, hfits, int_of_writes hvalue hwrites hfits⟩
    · have hnone : ∀ n, WritesInteger p.values[i].toList n → ¬ Fits64 n :=
        fun n hwrites hfits => hn ⟨n, hwrites, hfits⟩
      exact Or.inr ⟨hnone, int_of_not_writes hvalue hnone⟩
  · exact Or.inl ⟨hi, int_of_length_le hi⟩

theorem int_eq_missing_iff {j : Nat} :
    p.int i = .error (.missing j) ↔ p.values.length ≤ i ∧ j = i := by
  rcases int_cases p i with ⟨hi, h⟩ | ⟨value, hvalue, ⟨n, -, -, h⟩ | ⟨-, h⟩⟩
  · rw [h, Except.error.injEq, ParamError.missing.injEq, eq_comm]
    exact (and_iff_right hi).symm
  all_goals
    have hi := (List.getElem?_eq_some_iff.1 hvalue).1
    simp [h, Nat.not_le_of_lt hi]

theorem int_eq_ok_iff {n : Int} :
    p.int i = .ok n ↔
      ∃ value, p.values[i]? = some value ∧ WritesInteger value.toList n ∧ Fits64 n := by
  constructor
  · intro hn
    rcases int_cases p i with ⟨hi, h⟩ | ⟨value, hvalue, ⟨k, hwrites, hfits, h⟩ | ⟨-, h⟩⟩
    · cases h.symm.trans hn
    · obtain rfl : k = n := Except.ok.inj (h.symm.trans hn)
      exact ⟨value, hvalue, hwrites, hfits⟩
    · cases h.symm.trans hn
  · rintro ⟨value, hvalue, hwrites, hfits⟩
    exact int_of_writes hvalue hwrites hfits

theorem int_eq_notAnInteger_iff {name value : String} :
    p.int i = .error (.notAnInteger name value) ↔
      p.values[i]? = some value ∧ (∀ n, WritesInteger value.toList n → ¬ Fits64 n) ∧
        name = p.nameAt i := by
  constructor
  · intro hrefused
    rcases int_cases p i with ⟨hi, h⟩ | ⟨value', hvalue, ⟨k, -, -, h⟩ | ⟨hnone, h⟩⟩
    · cases h.symm.trans hrefused
    · cases h.symm.trans hrefused
    · cases h.symm.trans hrefused
      exact ⟨hvalue, hnone, rfl⟩
  · rintro ⟨hvalue, hnone, rfl⟩
    exact int_of_not_writes hvalue hnone

/-! ### Names -/

/-- The position has a value, and a placeholder with the name. -/
def Named (p : PathParams) (name : String) (i : Nat) : Prop :=
  i < p.values.length ∧ ∃ spec, p.specs[i]? = some spec ∧ spec.name = name

/-- Searching from the end finds the last of the elements. -/
theorem find?_reverse_eq_some_iff {α : Type} {l : List α} {q : α → Bool} {a : α} :
    l.reverse.find? q = some a ↔
      ∃ i : Nat, l[i]? = some a ∧ q a = true ∧
        ∀ (j : Nat) b, i < j → l[j]? = some b → q b = false := by
  rw [List.find?_eq_some_iff_append]
  constructor
  · rintro ⟨ha, later, earlier, hsplit, hlater⟩
    have hl : l = earlier.reverse ++ a :: later.reverse := by
      rw [← List.reverse_reverse l, hsplit]
      simp
    refine ⟨earlier.length, by simp [hl], ha, ?_⟩
    intro j b hj hb
    obtain ⟨k, rfl⟩ := Nat.exists_eq_add_of_lt hj
    have hplace : later.reverse[k]? = some b := by
      rw [hl, List.getElem?_append_right (by simp; omega)] at hb
      simpa [show earlier.length + k + 1 - earlier.length = k + 1 by omega] using hb
    simpa using hlater b (List.mem_reverse.1 (List.mem_of_getElem? hplace))
  · rintro ⟨i, hi, ha, hlater⟩
    obtain ⟨hlt, rfl⟩ := List.getElem?_eq_some_iff.1 hi
    have hsplit : l = l.take i ++ l[i] :: l.drop (i + 1) := by simp
    refine ⟨ha, (l.drop (i + 1)).reverse, (l.take i).reverse, ?_, ?_⟩
    · conv_lhs => rw [hsplit]
      simp
    · intro b hb
      rw [List.mem_reverse, List.mem_iff_getElem?] at hb
      obtain ⟨j, hj⟩ := hb
      rw [List.getElem?_drop] at hj
      rw [hlater (i + 1 + j) b (by omega) hj]
      rfl

theorem named_iff_exists_pair {name : String} :
    p.Named name i ↔ ∃ pair, (p.specs.zip p.values)[i]? = some pair ∧ pair.1.name = name := by
  constructor
  · rintro ⟨hi, spec, hspec, hname⟩
    exact ⟨(spec, p.values[i]),
      List.getElem?_zip_eq_some.2 ⟨hspec, List.getElem?_eq_getElem hi⟩, hname⟩
  · rintro ⟨pair, hpair, hname⟩
    obtain ⟨hspec, hvalue⟩ := List.getElem?_zip_eq_some.1 hpair
    exact ⟨(List.getElem?_eq_some_iff.1 hvalue).1, pair.1, hspec, hname⟩

theorem get?_eq_none_iff {name : String} : p.get? name = none ↔ ∀ i, ¬ p.Named name i := by
  rw [get?, Option.map_eq_none_iff, List.find?_eq_none]
  constructor
  · intro hnone i hi
    obtain ⟨pair, hpair, hname⟩ := named_iff_exists_pair.1 hi
    exact hnone pair (List.mem_reverse.2 (List.mem_of_getElem? hpair)) (decide_eq_true hname)
  · intro hnone pair hmem hname
    obtain ⟨i, hi⟩ := List.mem_iff_getElem?.1 (List.mem_reverse.1 hmem)
    exact hnone i (named_iff_exists_pair.2 ⟨pair, hi, of_decide_eq_true hname⟩)

/-- Of the positions with the name, the last one counts. -/
theorem get?_eq_some_iff {name value : String} :
    p.get? name = some value ↔
      ∃ i, p.values[i]? = some value ∧ p.Named name i ∧ ∀ j, p.Named name j → j ≤ i := by
  constructor
  · intro h
    obtain ⟨pair, hfound, rfl⟩ := Option.map_eq_some_iff.1 h
    obtain ⟨i, hpair, hname, hlater⟩ := find?_reverse_eq_some_iff.1 hfound
    refine ⟨i, (List.getElem?_zip_eq_some.1 hpair).2,
      named_iff_exists_pair.2 ⟨pair, hpair, of_decide_eq_true hname⟩, ?_⟩
    intro j hj
    obtain ⟨other, hother, hsame⟩ := named_iff_exists_pair.1 hj
    rcases Nat.lt_or_ge i j with hij | hij
    · exact absurd hsame (of_decide_eq_false (hlater j other hij hother))
    · exact hij
  · rintro ⟨i, hvalue, hi, hlast⟩
    obtain ⟨-, spec, hspec, hname⟩ := hi
    have hpair : (p.specs.zip p.values)[i]? = some (spec, value) :=
      List.getElem?_zip_eq_some.2 ⟨hspec, hvalue⟩
    have hfound : (p.specs.zip p.values).reverse.find? (fun e => e.1.name = name) =
        some (spec, value) := by
      refine find?_reverse_eq_some_iff.2 ⟨i, hpair, decide_eq_true hname, ?_⟩
      intro j other hj hother
      rw [decide_eq_false_iff_not]
      intro hsame
      have hle := hlast j (named_iff_exists_pair.2 ⟨other, hother, hsame⟩)
      omega
    rw [get?, hfound]
    rfl

/-! ### All of it together -/

/-- What the accessors answer for any values and any placeholders.  An integer is missing exactly
    behind the last value.  It is read exactly when its value writes a number of 64 bits, which it
    then is, and otherwise refused with the value and the name declared at its position, if there is
    one.  A name has the value at the last position where it is declared and a value stands. -/
theorem access_exact (p : PathParams) :
    (∀ i j, p.int i = .error (.missing j) ↔ p.values.length ≤ i ∧ j = i) ∧
    (∀ i n, p.int i = .ok n ↔
      ∃ value, p.values[i]? = some value ∧
        WritesInteger value.toList n ∧ -2 ^ 63 ≤ n ∧ n ≤ 2 ^ 63 - 1) ∧
    (∀ i name value, p.int i = .error (.notAnInteger name value) ↔
      p.values[i]? = some value ∧
        (∀ n, WritesInteger value.toList n → ¬ (-2 ^ 63 ≤ n ∧ n ≤ 2 ^ 63 - 1)) ∧
        name = ((p.specs[i]?).map (·.name)).getD "") ∧
    (∀ name value, p.get? name = some value ↔
      ∃ i, p.values[i]? = some value ∧ p.Named name i ∧ ∀ j, p.Named name j → j ≤ i) ∧
    (∀ name, p.get? name = none ↔ ∀ i, ¬ p.Named name i) := by
  exact ⟨fun i j => int_eq_missing_iff, fun i n => int_eq_ok_iff,
    fun i name value => int_eq_notAnInteger_iff, fun name value => get?_eq_some_iff,
    fun name => get?_eq_none_iff⟩

/-- Both ends of the range, the number behind it, and a sign without digits; the last value has no
    placeholder, and the first name comes again. -/
def edges : PathParams where
  values := ["-0009223372036854775808", "+9223372036854775807", "9223372036854775808", "+"]
  specs := [⟨"id", .int⟩, ⟨"top", .str⟩, ⟨"id", .int⟩]

theorem access_exact_edges :
    edges.int 0 = .ok (-2 ^ 63) ∧ edges.int 1 = .ok (2 ^ 63 - 1) ∧
    edges.int 2 = .error (.notAnInteger "id" "9223372036854775808") ∧
    edges.int 3 = .error (.notAnInteger "" "+") ∧ edges.int 4 = .error (.missing 4) ∧
    edges.get? "id" = some "9223372036854775808" := by
  obtain ⟨hmissing, hread, hrefused, hname, -⟩ := access_exact edges
  refine ⟨?_, ?_, ?_, ?_, (hmissing 4 4).2 ⟨by decide, rfl⟩, ?_⟩
  · have hlow : WritesInteger "-0009223372036854775808".toList (-2 ^ 63) :=
      Text.Numeral.integer?_eq_some_iff.1 (by decide +kernel)
    exact (hread 0 _).2 ⟨_, rfl, hlow, by decide, by decide⟩
  · have hhigh : WritesInteger "+9223372036854775807".toList (2 ^ 63 - 1) :=
      Text.Numeral.integer?_eq_some_iff.1 (by decide +kernel)
    exact (hread 1 _).2 ⟨_, rfl, hhigh, by decide, by decide⟩
  · refine (hrefused 2 _ _).2 ⟨rfl, ?_, rfl⟩
    intro n hn
    have hvalue : Text.Numeral.integer? "9223372036854775808".toList = some (2 ^ 63) := by
      decide +kernel
    obtain rfl : 2 ^ 63 = n :=
      Option.some.inj (hvalue.symm.trans (Text.Numeral.integer?_eq_some_iff.2 hn))
    decide
  · refine (hrefused 3 _ _).2 ⟨rfl, ?_, rfl⟩
    intro n hn
    have hvalue : Text.Numeral.integer? "+".toList = none := by decide +kernel
    cases hvalue.symm.trans (Text.Numeral.integer?_eq_some_iff.2 hn)
  · refine (hname _ _).2 ⟨2, rfl, ⟨by decide, ⟨"id", .int⟩, rfl, rfl⟩, ?_⟩
    -- behind the third position there is no placeholder
    rintro j ⟨-, spec, hspec, -⟩
    exact Nat.le_of_lt_succ (List.getElem?_eq_some_iff.1 hspec).1

end RouteServer.PathParams
