import RouteServer.Json.Parser
import RouteServer.Json.Printer
import RouteServer.Proofs.Text.Numeral

/-
  **Texts and whole numbers there and back** — reading what was printed, in front of any rest.

  An escape stands for one character wherever it occurs (`quotedRest?_escapeChar`), so a quoted text
  is read up to its own closing quote.  A number has no closing mark: it is read as it was printed
  only because what follows begins with no digit, point or exponent (`Ended`).  Its digits have no
  leading zero, and as long as their value fits 64 bits none of them is rounded away.
-/

namespace RouteServer.Json

variable {s t r : List Char} {c : Char} {n : Nat}

/-! ### Texts -/

theorem value?_sixteen_hexDigit :
    ∀ n < 0x20,
      Text.Numeral.value? 16 ['0', '0', hexDigit (n / 16), hexDigit (n % 16)] = some n := by
  decide

theorem unicodeEscape?_hexDigit (h : c.toNat < 0x20) (r : List Char) :
    unicodeEscape? ('0' :: '0' :: hexDigit (c.toNat / 16) :: hexDigit (c.toNat % 16) :: r) =
      some (c, r) := by
  have hhigh : ¬ (0xD800 ≤ c.toNat ∧ c.toNat ≤ 0xDBFF) := by omega
  have hlow : ¬ (0xDC00 ≤ c.toNat ∧ c.toNat ≤ 0xDFFF) := by omega
  simp only [unicodeEscape?, hex4?, value?_sixteen_hexDigit _ h, Option.map_some, hhigh, hlow,
    if_false, Char.ofNat_toNat]

theorem quotedRest?_escape {e : Char} (h : escape? s = some (e, r)) :
    quotedRest? (n + 1) ('\\' :: s) = (quotedRest? n r).map fun t => (e :: t.1, t.2) := by
  simp [quotedRest?, h]

/-- A character, escaped or not, is read as itself. -/
theorem quotedRest?_escapeChar (c : Char) (n : Nat) (r : List Char) :
    quotedRest? (n + 1) (escapeChar c ++ r) =
      (quotedRest? n r).map fun t => (c :: t.1, t.2) := by
  fun_cases escapeChar c with
  | case8 _ _ _ _ _ _ _ hcontrol => exact quotedRest?_escape (unicodeEscape?_hexDigit hcontrol r)
  | case9 hquote hback _ _ _ _ _ hcontrol =>
    rw [List.singleton_append, quotedRest?, if_neg hquote, if_neg hback, if_neg hcontrol]
  | _ =>
    subst_vars
    exact quotedRest?_escape rfl

theorem quotedRest?_flatMap_escapeChar (h : s.length < n) :
    quotedRest? n (s.flatMap escapeChar ++ '"' :: r) = some (s, r) := by
  induction s generalizing n with
  | nil =>
    obtain ⟨n, rfl⟩ := Nat.exists_eq_add_one_of_ne_zero (Nat.ne_zero_of_lt h)
    exact if_pos rfl
  | cons c s ih =>
    obtain ⟨n, rfl⟩ := Nat.exists_eq_add_one_of_ne_zero (Nat.ne_zero_of_lt h)
    rw [List.flatMap_cons, List.append_assoc, quotedRest?_escapeChar,
      ih (Nat.lt_of_succ_lt_succ h)]
    rfl

theorem length_le_length_flatMap_escapeChar (s : List Char) :
    s.length ≤ (s.flatMap escapeChar).length := by
  induction s with
  | nil => exact Nat.le_refl 0
  | cons c s ih =>
    have hchar : 0 < (escapeChar c).length := by
      fun_cases escapeChar c <;> exact Nat.succ_pos _
    rw [List.flatMap_cons, List.length_append, List.length_cons]
    omega

/-- Behind its opening quote a text is read up to its closing quote. -/
theorem exists_quoted_append_eq (s r : List Char) :
    ∃ t, quoted s ++ r = '"' :: t ∧ quotedRest? (t.length + 1) t = some (s, r) := by
  refine ⟨s.flatMap escapeChar ++ '"' :: r, ?_, ?_⟩
  · simp [quoted]
  · apply quotedRest?_flatMap_escapeChar
    have hlength := length_le_length_flatMap_escapeChar s
    rw [List.length_append]
    omega

/-! ### Digits -/

theorem le_ofDigitChars (s : List Char) (n : Nat) : n ≤ Nat.ofDigitChars 10 s n := by
  induction s generalizing n with
  | nil => exact Nat.le_refl n
  | cons c s ih =>
    have hstep : n ≤ 10 * n + (c.toNat - '0'.toNat) := by omega
    exact Nat.le_trans hstep (ih _)

/-- Digits whose value fits 64 bits are all read. -/
theorem leading_eq (hs : ∀ c ∈ s, c.isDigit = true) (hfits : Nat.ofDigitChars 10 s n < wordBound) :
    leading n s = (Nat.ofDigitChars 10 s n, 0) := by
  induction s generalizing n with
  | nil => rfl
  | cons c s ih =>
    have hvalue : Nat.ofDigitChars 10 (c :: s) n =
        Nat.ofDigitChars 10 s (n * 10 + (c.toNat - '0'.toNat)) := by
      rw [Nat.mul_comm]
      rfl
    rw [hvalue] at hfits ⊢
    have hstep : n * 10 + (c.toNat - '0'.toNat) < wordBound :=
      Nat.lt_of_le_of_lt (le_ofDigitChars s _) hfits
    have hdigit := Text.Numeral.digit?_ten (hs c List.mem_cons_self)
    simp only [leading, hdigit, hstep, if_true]
    exact ih (fun d hd => hs d (List.mem_cons_of_mem c hd)) hfits

theorem isDigit_of_mem_ofNat (h : c ∈ Text.Numeral.ofNat n) : c.isDigit = true :=
  Nat.isDigit_of_mem_toDigits (by decide) (by decide) h

theorem leading_ofNat (h : n < wordBound) : leading 0 (Text.Numeral.ofNat n) = (n, 0) := by
  have hvalue : Nat.ofDigitChars 10 (Text.Numeral.ofNat n) 0 = n :=
    Nat.ofDigitChars_ten_toDigits
  rw [leading_eq (fun c => isDigit_of_mem_ofNat) (hvalue.symm ▸ h), hvalue]

/-- A number begins with a digit, and only zero begins with a zero. -/
theorem exists_ofNat_eq (n : Nat) :
    ∃ c s, Text.Numeral.ofNat n = c :: s ∧ c.isDigit = true ∧ (0 < n → c ≠ '0') := by
  induction n using Nat.strongRecOn with
  | ind n ih =>
    rw [Text.Numeral.ofNat]
    by_cases hlt : n < 10
    · have hdigit : ∀ d < 10,
          (Nat.digitChar d).isDigit = true ∧ (0 < d → Nat.digitChar d ≠ '0') := by
        decide
      exact ⟨_, [], Nat.toDigits_of_lt_base hlt, hdigit n hlt⟩
    · have hfewer : n / 10 < n := by omega
      have hpos : 0 < n / 10 := by omega
      obtain ⟨c, s, hfront, hdigit, hzero⟩ := ih (n / 10) hfewer
      rw [Text.Numeral.ofNat] at hfront
      refine ⟨c, s ++ [Nat.digitChar (n % 10)], ?_, hdigit, fun _ => hzero hpos⟩
      rw [Nat.toDigits_of_base_le (by decide) (Nat.le_of_not_lt hlt), hfront]
      rfl

/-! ### Whole numbers -/

/-- Where a value ends: at the end of the text or before a comma or a closing bracket. -/
def Ended (r : List Char) : Prop := ∀ c ∈ r.head?, c = ',' ∨ c = ']' ∨ c = '}'

theorem ended_nil : Ended [] := by
  intro c hc
  cases hc

/-- What ends a value adds no digit, no fraction and no exponent to a number in front of it. -/
theorem Ended.no_number (h : Ended r) :
    digits r = ([], r) ∧ fraction? r = some (none, r) ∧ exponent? r = some (none, r) := by
  cases r with
  | nil => exact ⟨rfl, rfl, rfl⟩
  | cons c r =>
    rcases h c rfl with rfl | rfl | rfl
    · exact ⟨rfl, rfl, rfl⟩
    · exact ⟨rfl, rfl, rfl⟩
    · exact ⟨rfl, rfl, rfl⟩

theorem digits_append (hs : ∀ c ∈ s, c.isDigit = true) (hr : Ended r) :
    digits (s ++ r) = (s, r) := by
  obtain ⟨hnone, -, -⟩ := hr.no_number
  obtain ⟨htake, hdrop⟩ := Prod.mk.inj hnone
  rw [digits, List.takeWhile_append_of_pos hs, List.dropWhile_append_of_pos hs, htake, hdrop,
    List.append_nil]

theorem wholePart?_ofNat (n : Nat) (hr : Ended r) :
    wholePart? (Text.Numeral.ofNat n ++ r) = some (Text.Numeral.ofNat n, r) := by
  have hdigits : digits (Text.Numeral.ofNat n ++ r) = (Text.Numeral.ofNat n, r) :=
    digits_append (fun c => isDigit_of_mem_ofNat) hr
  rcases Nat.eq_zero_or_pos n with rfl | hpos
  · rfl
  · obtain ⟨c, s, hn, -, hzero⟩ := exists_ofNat_eq n
    rw [hn, List.cons_append] at hdigits ⊢
    rw [wholePart?]
    · rw [hdigits]
      rfl
    · intro t ht
      exact hzero hpos (List.cons.inj ht).1

theorem number?_unsigned (hs : ∀ t, s ≠ '-' :: t) (hwhole : wholePart? s = some (t, r))
    (hr : Ended r) : number? s = (whole? false t).map (·, r) := by
  obtain ⟨-, hfraction, hexponent⟩ := hr.no_number
  rw [number?]
  · simp only [hwhole, hfraction, hexponent]
  · exact hs

theorem number?_minus (hwhole : wholePart? s = some (t, r)) (hr : Ended r) :
    number? ('-' :: s) = (whole? true t).map (·, r) := by
  obtain ⟨-, hfraction, hexponent⟩ := hr.no_number
  simp only [number?, hwhole, hfraction, hexponent]

theorem whole?_false_ofNat (h : n < wordBound) :
    whole? false (Text.Numeral.ofNat n) = some (.int n) := by
  simp [whole?, leading_ofNat h]

theorem whole?_true_ofNat (hpos : 0 < n) (h : n ≤ 0x8000000000000000) :
    whole? true (Text.Numeral.ofNat n) = some (.int (-n)) := by
  have hfits : n < wordBound := Nat.lt_of_le_of_lt h (by decide)
  simp [whole?, leading_ofNat hfits, hpos, h]

theorem exists_intText_eq (n : Int) : ∃ c s, intText n = c :: s ∧ (c = '-' ∨ c.isDigit = true) := by
  rw [intText]
  split
  · exact ⟨'-', _, rfl, Or.inl rfl⟩
  · obtain ⟨c, s, hn, hdigit, -⟩ := exists_ofNat_eq n.natAbs
    exact ⟨c, s, hn, Or.inr hdigit⟩

/-- A whole number that fits 64 bits, with a sign or without, is read as it was printed. -/
theorem number?_intText {n : Int} (hlow : -2 ^ 63 ≤ n) (hhigh : n < 2 ^ 64) (hr : Ended r) :
    number? (intText n ++ r) = some (.int n, r) := by
  have hwhole := wholePart?_ofNat n.natAbs hr
  rw [intText]
  split
  · case isTrue hneg =>
    -- minus zero would be read as a double, but it is never printed
    have hpos : 0 < n.natAbs := by omega
    have hfits : n.natAbs ≤ 0x8000000000000000 := by omega
    have hvalue : -(n.natAbs : Int) = n := by omega
    rw [List.cons_append, number?_minus hwhole hr, whole?_true_ofNat hpos hfits, hvalue]
    rfl
  · case isFalse hneg =>
    have hfits : n.natAbs < wordBound := by
      rw [wordBound]
      omega
    have hvalue : (n.natAbs : Int) = n := by omega
    have hdigit : ∀ t, Text.Numeral.ofNat n.natAbs ++ r ≠ '-' :: t := by
      intro t heq
      obtain ⟨c, s, hn, hc, -⟩ := exists_ofNat_eq n.natAbs
      rw [hn] at heq
      obtain ⟨rfl, -⟩ := List.cons.inj heq
      exact absurd hc (by decide)
    rw [number?_unsigned hdigit hwhole hr, whole?_false_ofNat hfits, hvalue]
    rfl

end RouteServer.Json
