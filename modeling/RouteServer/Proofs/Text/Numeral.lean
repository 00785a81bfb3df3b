import RouteServer.Text.Numeral
import Mathlib.Data.Nat.Digits.Defs
import Mathlib.Tactic.Ring

/-
  **The value of numerals** — reading digits from the left gives the value that their places say,
  however many there are.

  The reader carries the value so far and takes a digit at a time, so its value of a text is stated
  for any value in front of it (`Base.extend?_eq`).  That argument is the same in every base: a base
  only says which characters are digits and what they count (`Base`).  The bounded readers take a
  sign off the front and then ask whether the value fits, so each of them reads exactly the texts
  that write a number in its range.
-/

namespace RouteServer.Text.Numeral

variable {s : List Char}

/-! ### Digits -/

theorem isDigit_iff {c : Char} : c.isDigit = true ↔ '0'.toNat ≤ c.toNat ∧ c.toNat ≤ '9'.toNat := by
  simp only [Char.isDigit, Bool.and_eq_true, decide_eq_true_eq, ge_iff_le, UInt32.le_iff_toNat_le]
  exact Iff.rfl

/-- The digits of base sixteen, with letters of either case. -/
def isHexDigit (c : Char) : Bool :=
  c.isDigit || ('a'.toNat ≤ c.toNat && c.toNat ≤ 'f'.toNat) ||
    ('A'.toNat ≤ c.toNat && c.toNat ≤ 'F'.toNat)

def hexDigitValue (c : Char) : Nat :=
  if c.isDigit then c.toNat - '0'.toNat
  else if 'a'.toNat ≤ c.toNat then c.toNat - 'a'.toNat + 10
  else c.toNat - 'A'.toNat + 10

/-- Which characters are digits in a base, and what each of them counts. -/
def Base (base : Nat) (isDigit : Char → Bool) (digitValue : Char → Nat) : Prop :=
  ∀ c, digit? base c = if isDigit c = true then some (digitValue c) else none

theorem base_ten : Base 10 Char.isDigit fun c => c.toNat - '0'.toNat := by
  intro c
  have hnine : '9'.toNat = '0'.toNat + 9 := rfl
  simp only [digit?, isDigit_iff]
  grind

theorem base_sixteen : Base 16 isHexDigit hexDigitValue := by
  intro c
  have hnine : '9'.toNat = '0'.toNat + 9 := rfl
  have hupper : 'F'.toNat = 'A'.toNat + 5 := rfl
  have hlower : 'f'.toNat = 'a'.toNat + 5 := rfl
  have horder : '9'.toNat < 'A'.toNat ∧ 'F'.toNat < 'a'.toNat := by decide
  simp only [digit?, hexDigitValue, isHexDigit, Bool.or_eq_true, Bool.and_eq_true,
    decide_eq_true_eq, isDigit_iff]
  grind

theorem digit?_ten {c : Char} (h : c.isDigit = true) :
    digit? 10 c = some (c.toNat - '0'.toNat) := by
  rw [base_ten, if_pos h]

/-- A plus sign is a digit in no base. -/
theorem digit?_plus (base : Nat) : digit? base '+' = none := by
  simp [digit?]

theorem value?_plus (base : Nat) : value? base ('+' :: s) = none := by
  simp [value?, extend?, digit?_plus]

/-! ### Places -/

/-- The value of a text of digits: the last digit counts ones, and each digit before it as many
    times more as the base says. -/
def placeValue (base : Nat) (digitValue : Char → Nat) (s : List Char) : Nat :=
  Nat.ofDigits base (s.reverse.map digitValue)

/-- The value of a text of decimal digits: the last digit counts ones, the one before it tens, and
    so on. -/
def decimalValue (s : List Char) : Nat :=
  Nat.ofDigits 10 (s.reverse.map fun c => c.toNat - '0'.toNat)

def hexadecimalValue (s : List Char) : Nat := placeValue 16 hexDigitValue s

theorem placeValue_cons (base : Nat) (digitValue : Char → Nat) (c : Char) (s : List Char) :
    placeValue base digitValue (c :: s) =
      digitValue c * base ^ s.length + placeValue base digitValue s := by
  simp [placeValue, Nat.ofDigits_append, Nat.add_comm, Nat.mul_comm]

theorem decimalValue_cons (c : Char) (s : List Char) :
    decimalValue (c :: s) = (c.toNat - '0'.toNat) * 10 ^ s.length + decimalValue s :=
  placeValue_cons 10 _ c s

namespace Base

variable {base : Nat} {isDigit : Char → Bool} {digitValue : Char → Nat}

/-- Digits behind a value move it up by their number. -/
theorem extend?_eq (h : Base base isDigit digitValue) (hs : ∀ c ∈ s, isDigit c = true) (n : Nat) :
    extend? base n s = some (n * base ^ s.length + placeValue base digitValue s) := by
  induction s generalizing n with
  | nil => simp [extend?, placeValue]
  | cons c s ih =>
    have hrest : ∀ d ∈ s, isDigit d = true := fun d hd => hs d (List.mem_cons_of_mem _ hd)
    simp only [extend?, h c, hs c List.mem_cons_self, if_true, ih hrest, placeValue_cons,
      List.length_cons]
    congr 1
    ring

theorem extend?_eq_none (h : Base base isDigit digitValue) (hs : ¬ ∀ c ∈ s, isDigit c = true)
    (n : Nat) : extend? base n s = none := by
  induction s generalizing n with
  | nil => exact absurd (by simp) hs
  | cons c s ih =>
    by_cases hc : isDigit c = true
    · have hrest : ¬ ∀ d ∈ s, isDigit d = true := by
        intro hall
        apply hs
        simpa [hc] using hall
      simp only [extend?, h c, hc, if_true, ih hrest]
    · rw [extend?, h c, if_neg hc]

theorem value?_eq_some_iff (h : Base base isDigit digitValue) {n : Nat} :
    value? base s = some n ↔
      s ≠ [] ∧ (∀ c ∈ s, isDigit c = true) ∧ placeValue base digitValue s = n := by
  by_cases hs : ∀ c ∈ s, isDigit c = true
  · rw [value?, h.extend?_eq hs, Nat.zero_mul, Nat.zero_add]
    simp only [List.isEmpty_iff]
    split
    · case isTrue hempty => simp [hempty]
    · case isFalse hempty =>
      simp only [Option.some.injEq, ne_eq, hempty, not_false_eq_true, true_and]
      exact (and_iff_right hs).symm
  · have hnone : value? base s = none := by
      rw [value?, h.extend?_eq_none hs]
      exact ite_self none
    simp [hnone, hs]

end Base

theorem value?_ten_eq_some_iff {n : Nat} :
    value? 10 s = some n ↔ s ≠ [] ∧ (∀ c ∈ s, c.isDigit = true) ∧ decimalValue s = n :=
  base_ten.value?_eq_some_iff

theorem value?_sixteen_eq_some_iff {n : Nat} :
    value? 16 s = some n ↔ s ≠ [] ∧ (∀ c ∈ s, isHexDigit c = true) ∧ hexadecimalValue s = n :=
  base_sixteen.value?_eq_some_iff

/-! ### Numbers without a minus sign -/

/-- A text that writes a number in decimal: one digit or more, behind at most a plus sign. -/
def WritesDecimal (s : List Char) (n : Nat) : Prop :=
  ∃ digits, (s = digits ∨ s = '+' :: digits) ∧ digits ≠ [] ∧ (∀ c ∈ digits, c.isDigit = true) ∧
    decimalValue digits = n

def WritesHexadecimal (s : List Char) (n : Nat) : Prop :=
  ∃ digits, (s = digits ∨ s = '+' :: digits) ∧ digits ≠ [] ∧
    (∀ c ∈ digits, isHexDigit c = true) ∧ hexadecimalValue digits = n

theorem WritesDecimal.isDigit_of_mem {n : Nat} (h : WritesDecimal s n) {c : Char} (hc : c ∈ s) :
    c = '+' ∨ c.isDigit = true := by
  obtain ⟨digits, rfl | rfl, -, hdigits, -⟩ := h
  · exact Or.inr (hdigits c hc)
  · exact (List.mem_cons.1 hc).imp_right (hdigits c)

theorem WritesHexadecimal.isHexDigit_of_mem {n : Nat} (h : WritesHexadecimal s n) {c : Char}
    (hc : c ∈ s) : c = '+' ∨ isHexDigit c = true := by
  obtain ⟨digits, rfl | rfl, -, hdigits, -⟩ := h
  · exact Or.inr (hdigits c hc)
  · exact (List.mem_cons.1 hc).imp_right (hdigits c)

theorem unsigned?_plus (base bits : Nat) (s : List Char) :
    unsigned? base bits ('+' :: s) = (value? base s).filter (· < 2 ^ bits) := by
  cases h : value? base s <;> simp [unsigned?, h, Option.filter]

theorem unsigned?_of_ne_plus (base bits : Nat) (h : ∀ r, s ≠ '+' :: r) :
    unsigned? base bits s = (value? base s).filter (· < 2 ^ bits) := by
  rw [unsigned?]
  · cases value? base s <;> simp [Option.filter]
  · exact h

theorem unsigned?_eq_some_iff {base bits n : Nat} :
    unsigned? base bits s = some n ↔
      (∃ digits, (s = digits ∨ s = '+' :: digits) ∧ value? base digits = some n) ∧
        n < 2 ^ bits := by
  have hfilter : ∀ t, (value? base t).filter (· < 2 ^ bits) = some n ↔
      value? base t = some n ∧ n < 2 ^ bits := by
    intro t
    rw [Option.filter_eq_some_iff, decide_eq_true_eq]
  by_cases hplus : ∃ r, s = '+' :: r
  · obtain ⟨r, rfl⟩ := hplus
    rw [unsigned?_plus, hfilter]
    constructor
    · rintro ⟨hvalue, hfits⟩
      exact ⟨⟨r, Or.inr rfl, hvalue⟩, hfits⟩
    · rintro ⟨⟨digits, rfl | hr, hvalue⟩, hfits⟩
      · rw [value?_plus] at hvalue
        cases hvalue
      · obtain rfl : r = digits := List.tail_eq_of_cons_eq hr
        exact ⟨hvalue, hfits⟩
  · rw [unsigned?_of_ne_plus _ _ (not_exists.1 hplus), hfilter]
    constructor
    · rintro ⟨hvalue, hfits⟩
      exact ⟨⟨s, Or.inl rfl, hvalue⟩, hfits⟩
    · rintro ⟨⟨digits, rfl | hr, hvalue⟩, hfits⟩
      · exact ⟨hvalue, hfits⟩
      · exact absurd ⟨digits, hr⟩ hplus

theorem unsigned?_ten_eq_some_iff {bits n : Nat} :
    unsigned? 10 bits s = some n ↔ WritesDecimal s n ∧ n < 2 ^ bits := by
  rw [unsigned?_eq_some_iff]
  simp only [value?_ten_eq_some_iff, WritesDecimal]

theorem unsigned?_sixteen_eq_some_iff {bits n : Nat} :
    unsigned? 16 bits s = some n ↔ WritesHexadecimal s n ∧ n < 2 ^ bits := by
  rw [unsigned?_eq_some_iff]
  simp only [value?_sixteen_eq_some_iff, WritesHexadecimal]

/-! ### Numbers with a sign -/

/-- A text that writes a whole number in decimal: one digit or more, behind at most one sign. -/
inductive WritesInteger : List Char → Int → Prop
  | bare {digits : List Char} : digits ≠ [] → (∀ c ∈ digits, c.isDigit = true) →
      WritesInteger digits (decimalValue digits)
  | plus {digits : List Char} : digits ≠ [] → (∀ c ∈ digits, c.isDigit = true) →
      WritesInteger ('+' :: digits) (decimalValue digits)
  | minus {digits : List Char} : digits ≠ [] → (∀ c ∈ digits, c.isDigit = true) →
      WritesInteger ('-' :: digits) (-decimalValue digits)

/-- The number fits 64 bits with a sign. -/
def Fits64 (n : Int) : Prop := -2 ^ 63 ≤ n ∧ n ≤ 2 ^ 63 - 1

/-- Digits begin with no sign. -/
theorem not_begins_sign (h : ∀ c ∈ s, c.isDigit = true) :
    (∀ r, s ≠ '-' :: r) ∧ ∀ r, s ≠ '+' :: r := by
  constructor <;> rintro r rfl
  · exact absurd (h '-' List.mem_cons_self) (by decide)
  · exact absurd (h '+' List.mem_cons_self) (by decide)

/-- What is read of a text before its range is looked at. -/
def integer? : List Char → Option Int
  | '-' :: r => (value? 10 r).map fun n : Nat => -(n : Int)
  | '+' :: r => (value? 10 r).map Int.ofNat
  | s => (value? 10 s).map Int.ofNat

theorem integer?_of_unsigned (hminus : ∀ r, s ≠ '-' :: r) (hplus : ∀ r, s ≠ '+' :: r) :
    integer? s = (value? 10 s).map Int.ofNat := by
  rw [integer?]
  · exact hminus
  · exact hplus

theorem integer?_eq_some_iff {n : Int} : integer? s = some n ↔ WritesInteger s n := by
  constructor
  · intro h
    fun_cases integer? s with
    | case1 r =>
      obtain ⟨k, hk, rfl⟩ := Option.map_eq_some_iff.1 h
      obtain ⟨hne, hdigits, rfl⟩ := value?_ten_eq_some_iff.1 hk
      exact .minus hne hdigits
    | case2 r =>
      obtain ⟨k, hk, rfl⟩ := Option.map_eq_some_iff.1 h
      obtain ⟨hne, hdigits, rfl⟩ := value?_ten_eq_some_iff.1 hk
      exact .plus hne hdigits
    | case3 s hminus hplus =>
      rw [integer?_of_unsigned hminus hplus] at h
      obtain ⟨k, hk, rfl⟩ := Option.map_eq_some_iff.1 h
      obtain ⟨hne, hdigits, rfl⟩ := value?_ten_eq_some_iff.1 hk
      exact .bare hne hdigits
  · intro h
    cases h with
    | bare hne hdigits =>
      obtain ⟨hminus, hplus⟩ := not_begins_sign hdigits
      rw [integer?_of_unsigned hminus hplus, value?_ten_eq_some_iff.2 ⟨hne, hdigits, rfl⟩]
      rfl
    | plus hne hdigits => rw [integer?, value?_ten_eq_some_iff.2 ⟨hne, hdigits, rfl⟩]; rfl
    | minus hne hdigits => rw [integer?, value?_ten_eq_some_iff.2 ⟨hne, hdigits, rfl⟩]; rfl

theorem signed64?_eq (s : List Char) :
    signed64? s = match integer? s with
      | some n => if -0x8000000000000000 ≤ n ∧ n < 0x8000000000000000 then some n else none
      | none => none := by
  fun_cases integer? s with
  | case1 r => cases h : value? 10 r <;> simp [signed64?, h]
  | case2 r => cases h : value? 10 r <;> simp [signed64?, h]
  | case3 s hminus hplus =>
    rw [signed64?]
    · cases value? 10 s <;> rfl
    · exact hminus
    · exact hplus

/-- The texts that are read as numbers of 64 bits. -/
theorem signed64?_eq_some_iff {n : Int} :
    signed64? s = some n ↔ WritesInteger s n ∧ Fits64 n := by
  have hrange : ∀ k : Int, (-0x8000000000000000 ≤ k ∧ k < 0x8000000000000000) ↔ Fits64 k := by
    intro k
    rw [Fits64]
    omega
  rw [signed64?_eq, ← integer?_eq_some_iff]
  cases integer? s with
  | none => simp
  | some k =>
    simp only [Option.ite_none_right_eq_some, hrange, Option.some.injEq]
    constructor
    · rintro ⟨hfits, rfl⟩
      exact ⟨rfl, hfits⟩
    · rintro ⟨rfl, hfits⟩
      exact ⟨hfits, rfl⟩

theorem writesInteger_of_digits (h : ∀ c ∈ s, c.isDigit = true) {n : Int} :
    WritesInteger s n ↔ s ≠ [] ∧ n = decimalValue s := by
  obtain ⟨hminus, hplus⟩ := not_begins_sign h
  constructor
  · intro hn
    cases hn with
    | bare hne _ => exact ⟨hne, rfl⟩
    | plus _ _ => exact absurd rfl (hplus _)
    | minus _ _ => exact absurd rfl (hminus _)
  · rintro ⟨hne, rfl⟩
    exact .bare hne h

/-! ### Numbers as they are printed -/

theorem extend?_concat (base n : Nat) (s : List Char) (c : Char) :
    extend? base n (s ++ [c]) =
      (extend? base n s).bind fun k => (digit? base c).map (k * base + ·) := by
  induction s generalizing n with
  | nil => cases h : digit? base c <;> simp [extend?, h]
  | cons d s ih => cases h : digit? base d <;> simp [extend?, h, ih]

/-- The digits of a number are read as that number, also when they are spelled in another way. -/
theorem value?_map_toDigits {base : Nat} (hbase : 1 < base) {spell : Char → Char}
    (hspell : ∀ d < base, digit? base (spell (Nat.digitChar d)) = some d) (n : Nat) :
    value? base ((Nat.toDigits base n).map spell) = some n := by
  have hread : extend? base 0 ((Nat.toDigits base n).map spell) = some n := by
    induction n using Nat.strongRecOn with
    | ind n ih =>
      by_cases hlt : n < base
      · rw [Nat.toDigits_of_lt_base hlt]
        simp [extend?, hspell n hlt]
      · have hfewer : n / base < n := Nat.div_lt_self (by omega) hbase
        rw [Nat.toDigits_of_base_le hbase (Nat.le_of_not_lt hlt), List.map_append,
          List.map_singleton, extend?_concat, ih _ hfewer, hspell _ (Nat.mod_lt n (by omega))]
        simp [Nat.div_add_mod']
  rw [value?, hread]
  exact if_neg (by simp [Nat.toDigits_ne_nil])

theorem writesDecimal_toDigits (n : Nat) : WritesDecimal (Nat.toDigits 10 n) n := by
  have hread : value? 10 ((Nat.toDigits 10 n).map id) = some n :=
    value?_map_toDigits (by decide) (by decide) n
  rw [List.map_id] at hread
  exact ⟨_, Or.inl rfl, value?_ten_eq_some_iff.1 hread⟩

/-- The letters of a hexadecimal number may be of either case. -/
theorem writesHexadecimal_toDigits (n : Nat) :
    WritesHexadecimal (Nat.toDigits 16 n) n ∧
      WritesHexadecimal ((Nat.toDigits 16 n).map Char.toUpper) n := by
  have hread : value? 16 ((Nat.toDigits 16 n).map id) = some n :=
    value?_map_toDigits (by decide) (by decide) n
  rw [List.map_id] at hread
  have hupper : value? 16 ((Nat.toDigits 16 n).map Char.toUpper) = some n :=
    value?_map_toDigits (by decide) (by decide) n
  exact ⟨⟨_, Or.inl rfl, value?_sixteen_eq_some_iff.1 hread⟩,
    ⟨_, Or.inl rfl, value?_sixteen_eq_some_iff.1 hupper⟩⟩

end RouteServer.Text.Numeral
