import Mathlib.Data.List.TakeWhile
import RouteServer.Proofs.Json.Tokens
import RouteServer.Proofs.Text.Utf8

/-
  **The grammar of JSON** — which texts stand for which values.

  `Denotes` is the standard grammar, one constructor for each form of a value, and says of every
  text what value it has.  It knows nothing of how a text is read: there is no bound on nesting and
  no order in which forms are tried.  A whole number that does not fit 64 bits, minus zero and every
  number with a fraction or an exponent stand for doubles.

  The readers take a text from the front and leave a rest.  What each of them has taken is a text of
  its part of the grammar; the readers of values call each other with one step less, so `Sound` is
  the invariant of the number of steps.
-/

namespace RouteServer.Json

open Text.Numeral (decimalValue)

/-! ### Texts and their values -/

/-- Space between tokens, of any length. -/
def Blank (s : List Char) : Prop := ∀ c ∈ s, isSpace c = true

def Digits (s : List Char) : Prop := s ≠ [] ∧ ∀ c ∈ s, c.isDigit = true

/-- The whole part of a number: a zero, or digits that do not begin with one. -/
def Whole (s : List Char) : Prop := Digits s ∧ (s.head? = some '0' → s = ['0'])

/-- The text of a fraction, which may be missing, and its places. -/
inductive Fraction : List Char → List Char → Prop
  | none : Fraction [] []
  | places {s : List Char} : Digits s → Fraction ('.' :: s) s

/-- The text of an exponent, which may be missing, and its value. -/
inductive Exponent : List Char → Int → Prop
  | none : Exponent [] 0
  | bare {mark s} : mark = 'e' ∨ mark = 'E' → Digits s → Exponent (mark :: s) (decimalValue s)
  | plus {mark s} : mark = 'e' ∨ mark = 'E' → Digits s →
      Exponent (mark :: '+' :: s) (decimalValue s)
  | minus {mark s} : mark = 'e' ∨ mark = 'E' → Digits s →
      Exponent (mark :: '-' :: s) (-decimalValue s)

def sign (negative : Bool) : List Char := if negative then ['-'] else []

/-- The number fits 64 bits, with a sign or without, and is not minus zero. -/
def Fits (negative : Bool) (n : Nat) : Prop := if negative then 0 < n ∧ n ≤ 2 ^ 63 else n < 2 ^ 64

inductive NumberText : List Char → Json → Prop
  | whole {negative s} : Whole s → Fits negative (decimalValue s) →
      NumberText (sign negative ++ s) (.int (if negative then -decimalValue s else decimalValue s))
  | real {negative s fraction places exponent e v} : Whole s → Fraction fraction places →
      Exponent exponent e → (fraction = [] → exponent = [] → ¬ Fits negative (decimalValue s)) →
      real? negative s places e = some v →
      NumberText (sign negative ++ (s ++ (fraction ++ exponent))) v

/-- The marks behind a backslash that stand for one character. -/
def escapeMarks : List (Char × Char) :=
  [('"', '"'), ('\\', '\\'), ('/', '/'), ('b', '\x08'), ('f', '\x0c'), ('n', '\n'), ('r', '\r'),
    ('t', '\t')]

/-- Four hexadecimal digits and their value. -/
def CodeUnit (s : List Char) (n : Nat) : Prop := s.length = 4 ∧ Text.Numeral.value? 16 s = some n

/-- What stands behind a backslash, and the character that it means. -/
inductive Escape : List Char → Char → Prop
  | mark {m c} : (m, c) ∈ escapeMarks → Escape [m] c
  | unit {s n} : CodeUnit s n → n < 0xD800 ∨ 0xDFFF < n → Escape ('u' :: s) (Char.ofNat n)
  | pair {s t n m} : CodeUnit s n → CodeUnit t m → 0xD800 ≤ n ∧ n ≤ 0xDBFF →
      0xDC00 ≤ m ∧ m ≤ 0xDFFF →
      Escape ('u' :: (s ++ '\\' :: 'u' :: t))
        (Char.ofNat (0x10000 + (n - 0xD800) * 0x400 + (m - 0xDC00)))

/-- What stands between two quotes, and the text that it means. -/
inductive Quoted : List Char → List Char → Prop
  | nil : Quoted [] []
  | plain {c s t} : c ≠ '"' ∧ c ≠ '\\' ∧ 0x20 ≤ c.toNat → Quoted s t → Quoted (c :: s) (c :: t)
  | escaped {e c s t} : Escape e c → Quoted s t → Quoted ('\\' :: (e ++ s)) (c :: t)

mutual

/-- The text of a value, without space around it. -/
inductive Denotes : List Char → Json → Prop
  | null : Denotes ['n', 'u', 'l', 'l'] .null
  | true : Denotes ['t', 'r', 'u', 'e'] (.bool Bool.true)
  | false : Denotes ['f', 'a', 'l', 's', 'e'] (.bool Bool.false)
  | number {s v} : NumberText s v → Denotes s v
  | str {s t} : Quoted s t → Denotes ('"' :: (s ++ ['"'])) (.str (String.ofList t))
  | empty {s} : Blank s → Denotes ('[' :: (s ++ [']'])) (.arr [])
  | arr {s vs} : Items s vs → Denotes ('[' :: (s ++ [']'])) (.arr vs)
  | bare {s} : Blank s → Denotes ('{' :: (s ++ ['}'])) (.obj [])
  | obj {s fs} : Members s fs → Denotes ('{' :: (s ++ ['}'])) (object fs)

/-- A value with space around it. -/
inductive Element : List Char → Json → Prop
  | padded {before s after v} : Blank before → Denotes s v → Blank after →
      Element (before ++ (s ++ after)) v

inductive Items : List Char → List Json → Prop
  | last {s v} : Element s v → Items s [v]
  | more {s t v vs} : Element s v → Items t vs → Items (s ++ ',' :: t) (v :: vs)

inductive Member : List Char → String × Json → Prop
  | named {before key name after s v} : Blank before → Quoted key name → Blank after →
      Element s v →
      Member (before ++ '"' :: (key ++ '"' :: (after ++ ':' :: s))) (String.ofList name, v)

inductive Members : List Char → List (String × Json) → Prop
  | last {s f} : Member s f → Members s [f]
  | more {s t f fs} : Member s f → Members t fs → Members (s ++ ',' :: t) (f :: fs)

end

variable {s r t : List Char} {n m fuel depth : Nat} {c : Char} {v : Json}

/-! ### Texts between quotes -/

theorem exists_blank_append (s : List Char) : ∃ b, Blank b ∧ s = b ++ skipSpace s :=
  ⟨s.takeWhile isSpace, fun _ hc => List.mem_takeWhile_imp hc,
    List.takeWhile_append_dropWhile.symm⟩

theorem exists_unit_of_hex4? (h : hex4? s = some (n, r)) : ∃ t, s = t ++ r ∧ CodeUnit t n := by
  unfold hex4? at h
  split at h
  · rename_i a b c d rest
    obtain ⟨x, hx, heq⟩ := Option.map_eq_some_iff.1 h
    obtain ⟨rfl, rfl⟩ := Prod.mk.inj heq
    exact ⟨[a, b, c, d], rfl, rfl, hx⟩
  · cases h

theorem exists_escape_of_unicodeEscape? (h : unicodeEscape? s = some (c, r)) :
    ∃ e, 'u' :: s = e ++ r ∧ Escape e c := by
  unfold unicodeEscape? at h
  split at h
  · cases h
  · rename_i n rest hfirst
    obtain ⟨t, rfl, ht⟩ := exists_unit_of_hex4? hfirst
    split at h
    · rename_i hhigh
      split at h
      · rename_i rest'
        split at h
        · rename_i m rest'' hsecond
          obtain ⟨u, rfl, hu⟩ := exists_unit_of_hex4? hsecond
          split at h
          · rename_i hlow
            obtain ⟨rfl, rfl⟩ := Prod.mk.inj (Option.some.inj h)
            exact ⟨_, by simp, .pair ht hu hhigh hlow⟩
          · cases h
        · cases h
      · cases h
    · rename_i hhigh
      split at h
      · cases h
      · rename_i hlow
        obtain ⟨rfl, rfl⟩ := Prod.mk.inj (Option.some.inj h)
        exact ⟨'u' :: t, rfl, .unit ht (by omega)⟩

theorem exists_escape_of_escape? (h : escape? s = some (c, r)) : ∃ e, s = e ++ r ∧ Escape e c := by
  unfold escape? at h
  split at h
  case h_9 => exact exists_escape_of_unicodeEscape? h
  case h_10 => cases h
  -- every other mark stands for one character
  all_goals
    obtain ⟨rfl, rfl⟩ := Prod.mk.inj (Option.some.inj h)
    exact ⟨[_], rfl, .mark (by decide)⟩

theorem exists_quoted_of_quotedRest? (h : quotedRest? n s = some (t, r)) :
    ∃ q, s = q ++ '"' :: r ∧ Quoted q t := by
  fun_induction quotedRest? n s generalizing t with
  | case1 => cases h
  | case2 => cases h
  | case3 n rest =>
    obtain ⟨rfl, rfl⟩ := Prod.mk.inj (Option.some.inj h)
    exact ⟨[], rfl, .nil⟩
  | case4 n rest e rest' hescape _ ih =>
    obtain ⟨p, hp, heq⟩ := Option.map_eq_some_iff.1 h
    obtain ⟨rfl, rfl⟩ := Prod.mk.inj heq
    obtain ⟨q, rfl, hq⟩ := ih hp
    obtain ⟨x, rfl, hx⟩ := exists_escape_of_escape? hescape
    exact ⟨'\\' :: (x ++ q), by simp, .escaped hx hq⟩
  | case5 => cases h
  | case6 => cases h
  | case7 n c rest hquote hback hcontrol ih =>
    obtain ⟨p, hp, heq⟩ := Option.map_eq_some_iff.1 h
    obtain ⟨rfl, rfl⟩ := Prod.mk.inj heq
    obtain ⟨q, rfl, hq⟩ := ih hp
    exact ⟨c :: q, rfl, .plain ⟨hquote, hback, Nat.le_of_not_lt hcontrol⟩ hq⟩

/-! ### Numbers -/

theorem exists_digits_append (s : List Char) :
    s = (digits s).1 ++ (digits s).2 ∧ ∀ c ∈ (digits s).1, c.isDigit = true :=
  ⟨List.takeWhile_append_dropWhile.symm, fun _ hc => List.mem_takeWhile_imp hc⟩

theorem whole_of_wholePart? (h : wholePart? s = some (t, r)) : s = t ++ r ∧ Whole t := by
  unfold wholePart? at h
  split at h
  · obtain ⟨rfl, rfl⟩ := Prod.mk.inj (Option.some.inj h)
    exact ⟨rfl, ⟨by decide, List.all_eq_true.1 (by decide)⟩, fun _ => rfl⟩
  · rename_i hzero
    obtain ⟨happend, hdigits⟩ := exists_digits_append s
    split at h
    · cases h
    · rename_i hne
      rw [List.isEmpty_iff] at hne
      rw [Option.some.inj h] at happend hdigits hne
      refine ⟨happend, ⟨hne, hdigits⟩, fun hhead => ?_⟩
      obtain ⟨t', rfl⟩ := List.head?_eq_some_iff.1 hhead
      exact absurd happend (hzero _)

theorem exists_fraction_of_fraction? {f : Option (List Char)} (h : fraction? s = some (f, r)) :
    ∃ t, s = t ++ r ∧ Fraction t (f.getD []) ∧ (t = [] ↔ f = none) := by
  unfold fraction? at h
  split at h
  · rename_i rest
    obtain ⟨happend, hdigits⟩ := exists_digits_append rest
    split at h
    · cases h
    · rename_i hne
      rw [List.isEmpty_iff] at hne
      obtain ⟨rfl, rfl⟩ := Prod.mk.inj (Option.some.inj h)
      exact ⟨'.' :: (digits rest).1, congrArg ('.' :: ·) happend, .places ⟨hne, hdigits⟩, nofun,
        nofun⟩
  · obtain ⟨rfl, rfl⟩ := Prod.mk.inj (Option.some.inj h)
    exact ⟨[], rfl, .none, fun _ => rfl, fun _ => rfl⟩

theorem exists_exponent_of_exponent? {e : Option Int} (h : exponent? s = some (e, r)) :
    ∃ t, s = t ++ r ∧ Exponent t (e.getD 0) ∧ (t = [] ↔ e = none) := by
  have hread (k : Int) (rest : List Char)
      (h : Option.map (fun n => (some (k * n), (digits rest).2))
        (do return (↑(← Text.Numeral.value? 10 (digits rest).1) : Int)) = some (e, r)) :
      ∃ t, rest = t ++ r ∧ Digits t ∧ e.getD 0 = k * decimalValue t ∧ e ≠ none := by
    obtain ⟨n, hn, heq⟩ := Option.map_eq_some_iff.1 h
    obtain ⟨m, hm, hmn⟩ := Option.bind_eq_some_iff.1 hn
    obtain ⟨rfl, rfl⟩ := Prod.mk.inj heq
    obtain rfl := Option.some.inj hmn
    obtain ⟨hne, hdigits, rfl⟩ := Text.Numeral.value?_ten_eq_some_iff.1 hm
    exact ⟨_, (exists_digits_append rest).1, ⟨hne, hdigits⟩, rfl, nofun⟩
  unfold exponent? at h
  split at h
  · rename_i mark rest
    split at h
    · rename_i hmark
      split at h
      · rename_i rest
        obtain ⟨t, rfl, ht, he, hsome⟩ := hread 1 rest h
        rw [one_mul] at he
        exact ⟨mark :: '+' :: t, rfl, he ▸ .plus hmark ht, nofun, fun hnone => absurd hnone hsome⟩
      · rename_i rest
        obtain ⟨t, rfl, ht, he, hsome⟩ := hread (-1) rest h
        rw [neg_one_mul] at he
        exact ⟨mark :: '-' :: t, rfl, he ▸ .minus hmark ht, nofun, fun hnone => absurd hnone hsome⟩
      · obtain ⟨t, rfl, ht, he, hsome⟩ := hread 1 rest h
        rw [one_mul] at he
        exact ⟨mark :: t, rfl, he ▸ .bare hmark ht, nofun, fun hnone => absurd hnone hsome⟩
    · obtain ⟨rfl, rfl⟩ := Prod.mk.inj (Option.some.inj h)
      exact ⟨[], rfl, .none, fun _ => rfl, fun _ => rfl⟩
  · obtain ⟨rfl, rfl⟩ := Prod.mk.inj (Option.some.inj h)
    exact ⟨[], rfl, .none, fun _ => rfl, fun _ => rfl⟩

/-- Digits are read onto a value as long as it fits 64 bits, and some are left if it does not. -/
theorem leading_cases (hs : ∀ c ∈ s, c.isDigit = true) (hn : n < wordBound) :
    (n * 10 ^ s.length + decimalValue s < wordBound ∧
      leading n s = (n * 10 ^ s.length + decimalValue s, 0)) ∨
    (¬ n * 10 ^ s.length + decimalValue s < wordBound ∧ (leading n s).2 ≠ 0) := by
  induction s generalizing n with
  | nil =>
    left
    simpa [leading, decimalValue] using hn
  | cons c s ih =>
    have hdigit := Text.Numeral.digit?_ten (hs c List.mem_cons_self)
    have hvalue : n * 10 ^ (c :: s).length + decimalValue (c :: s) =
        (n * 10 + (c.toNat - '0'.toNat)) * 10 ^ s.length + decimalValue s := by
      rw [Text.Numeral.decimalValue_cons, List.length_cons]
      ring
    simp only [leading, hdigit, hvalue]
    split
    · rename_i hfits
      exact ih (fun d hd => hs d (List.mem_cons_of_mem c hd)) hfits
    · rename_i hfull
      have hgrows := Nat.le_mul_of_pos_right (n * 10 + (c.toNat - '0'.toNat))
        (Nat.pow_pos (n := s.length) (by decide : 0 < 10))
      exact Or.inr ⟨by omega, Nat.add_one_ne_zero _⟩

/-- The value of digits alone is a whole number if it fits, and else the double that they would be
    with an empty fraction and a zero exponent. -/
theorem whole?_eq (hs : ∀ c ∈ s, c.isDigit = true) (negative : Bool) :
    (Fits negative (decimalValue s) ∧ whole? negative s =
      some (.int (if negative then -decimalValue s else decimalValue s))) ∨
    (¬ Fits negative (decimalValue s) ∧ whole? negative s = real? negative s [] 0) := by
  have hreal : real? negative s [] 0 =
      (double? negative (leading 0 s).1 (leading 0 s).2).map .real := by
    simp [real?, leading]
  rw [hreal]
  rcases leading_cases hs (by decide : 0 < wordBound) with ⟨hfits, hall⟩ | ⟨hfull, hleft⟩
  · rw [Nat.zero_mul, Nat.zero_add] at hfits hall
    cases negative with
    | false =>
      have hrange : Fits false (decimalValue s) := hfits
      exact Or.inl ⟨hrange, by simp [whole?, hall]⟩
    | true =>
      by_cases hrange : 0 < decimalValue s ∧ decimalValue s ≤ 0x8000000000000000
      · exact Or.inl ⟨hrange, by simp [whole?, hall, hrange]⟩
      · exact Or.inr ⟨hrange, by simp [whole?, hall, hrange]⟩
  · rw [Nat.zero_mul, Nat.zero_add] at hfull
    refine Or.inr ⟨?_, by simp [whole?, hleft]⟩
    cases negative with
    | false => exact hfull
    | true =>
      rintro ⟨-, hrange⟩
      apply hfull
      exact Nat.lt_of_le_of_lt hrange (by decide)

theorem exists_parts_of_number? (h : number? s = some (v, r)) :
    ∃ negative body whole more places rest exponent,
      s = sign negative ++ body ∧ wholePart? body = some (whole, more) ∧
      fraction? more = some (places, rest) ∧ exponent? rest = some (exponent, r) ∧
      (match places, exponent with
        | none, none => whole? negative whole
        | _, _ => real? negative whole (places.getD []) (exponent.getD 0)) = some v := by
  unfold number? at h
  split at h
  rename_i negative body hbody
  have hsign : s = sign negative ++ body := by
    split at hbody
    · obtain ⟨rfl, rfl⟩ := Prod.mk.inj hbody
      rfl
    · obtain ⟨rfl, rfl⟩ := Prod.mk.inj hbody
      rfl
  split at h
  · cases h
  · rename_i whole more hwhole
    split at h
    · cases h
    · rename_i places rest hplaces
      split at h
      · cases h
      · rename_i exponent rest' hexponent
        obtain ⟨w, hw, heq⟩ := Option.map_eq_some_iff.1 h
        obtain ⟨rfl, rfl⟩ := Prod.mk.inj heq
        exact ⟨negative, body, whole, more, places, rest, exponent, hsign, hwhole, hplaces,
          hexponent, hw⟩

theorem exists_number_of_number? (h : number? s = some (v, r)) :
    ∃ t, s = t ++ r ∧ NumberText t v := by
  obtain ⟨negative, body, whole, more, places, rest, exponent, rfl, hwhole, hplaces, hexponent,
    hv⟩ := exists_parts_of_number? h
  obtain ⟨rfl, hw⟩ := whole_of_wholePart? hwhole
  obtain ⟨f, rfl, hf, hnofraction⟩ := exists_fraction_of_fraction? hplaces
  obtain ⟨e, rfl, he, hnoexponent⟩ := exists_exponent_of_exponent? hexponent
  have happend : sign negative ++ (whole ++ (f ++ (e ++ r))) =
      sign negative ++ (whole ++ (f ++ e)) ++ r := by
    simp only [List.append_assoc]
  have hreal (hnot : f = [] → e = [] → ¬ Fits negative (decimalValue whole))
      (hv : real? negative whole (places.getD []) (exponent.getD 0) = some v) :
      ∃ t, sign negative ++ (whole ++ (f ++ (e ++ r))) = t ++ r ∧ NumberText t v :=
    ⟨_, happend, .real hw hf he hnot hv⟩
  split at hv
  · rcases whole?_eq hw.1.2 negative with ⟨hfits, hint⟩ | ⟨hnot, hdouble⟩
    · obtain rfl := hnofraction.2 rfl
      obtain rfl := hnoexponent.2 rfl
      obtain rfl := Option.some.inj (hv.symm.trans hint)
      exact ⟨sign negative ++ whole, (List.append_assoc _ _ _).symm, .whole hw hfits⟩
    · exact hreal (fun _ _ => hnot) (hdouble ▸ hv)
  · rename_i hparts
    apply hreal _ hv
    intro hf' he' _
    exact hparts (hnofraction.1 hf') (hnoexponent.1 he')

/-! ### Values -/

section Space

variable {b : List Char}

theorem Blank.append (hb : Blank b) (hs : Blank s) : Blank (b ++ s) :=
  List.forall_mem_append.2 ⟨hb, hs⟩

theorem Element.blank_append (h : Element s v) (hb : Blank b) : Element (b ++ s) v := by
  cases h with
  | padded hbefore hs hafter =>
    rw [← List.append_assoc]
    exact .padded (hb.append hbefore) hs hafter

theorem Items.blank_append {vs : List Json} (h : Items s vs) (hb : Blank b) :
    Items (b ++ s) vs := by
  cases h with
  | last hv => exact .last (hv.blank_append hb)
  | more hv hrest =>
    rw [← List.append_assoc]
    exact .more (hv.blank_append hb) hrest

theorem Member.blank_append {f : String × Json} (h : Member s f) (hb : Blank b) :
    Member (b ++ s) f := by
  cases h with
  | named hbefore hkey hafter hv =>
    rw [← List.append_assoc]
    exact .named (hb.append hbefore) hkey hafter hv

theorem Members.blank_append {fs : List (String × Json)} (h : Members s fs) (hb : Blank b) :
    Members (b ++ s) fs := by
  cases h with
  | last hf => exact .last (hf.blank_append hb)
  | more hf hrest =>
    rw [← List.append_assoc]
    exact .more (hf.blank_append hb) hrest

end Space

/-- What the readers take with this many steps are texts of the grammar. -/
structure Sound (fuel : Nat) : Prop where
  value : ∀ {depth s v r}, value? fuel depth s = some (v, r) →
    ∃ before t, Blank before ∧ s = before ++ (t ++ r) ∧ Denotes t v
  items : ∀ {depth s vs r}, items? fuel depth s = some (vs, r) →
    ∃ t, s = t ++ ']' :: r ∧ Items t vs
  fields : ∀ {depth s fs r}, fields? fuel depth s = some (fs, r) →
    ∃ t, s = t ++ '}' :: r ∧ Members t fs

namespace Sound

theorem element (h : Sound fuel) (hv : value? fuel depth s = some (v, r)) :
    ∃ t, s = t ++ skipSpace r ∧ Element t v := by
  obtain ⟨before, t, hbefore, rfl, ht⟩ := h.value hv
  obtain ⟨after, hafter, hr⟩ := exists_blank_append r
  refine ⟨before ++ (t ++ after), ?_, .padded hbefore ht hafter⟩
  rw [List.append_assoc, List.append_assoc, ← hr]

theorem member (h : Sound fuel) {q k rest rest' : List Char} (hs : skipSpace s = '"' :: q)
    (hk : quotedRest? (q.length + 1) q = some (k, rest)) (hcolon : skipSpace rest = ':' :: rest')
    (hv : value? fuel depth rest' = some (v, r)) :
    ∃ t, s = t ++ skipSpace r ∧ Member t (String.ofList k, v) := by
  obtain ⟨before, hbefore, hopen⟩ := exists_blank_append s
  obtain ⟨key, rfl, hkey⟩ := exists_quoted_of_quotedRest? hk
  obtain ⟨after, hafter, hbehind⟩ := exists_blank_append rest
  obtain ⟨t, rfl, ht⟩ := h.element hv
  refine ⟨_, ?_, .named hbefore hkey hafter ht⟩
  rw [hopen, hs, hbehind, hcolon]
  simp only [List.append_assoc, List.cons_append]

theorem items_succ (h : Sound fuel) {vs : List Json}
    (hitems : items? (fuel + 1) depth s = some (vs, r)) : ∃ t, s = t ++ ']' :: r ∧ Items t vs := by
  rw [items?] at hitems
  split at hitems
  · cases hitems
  · rename_i v rest hv
    obtain ⟨t, rfl, ht⟩ := h.element hv
    split at hitems
    · rename_i hclose
      obtain ⟨rfl, rfl⟩ := Prod.mk.inj (Option.some.inj hitems)
      exact ⟨t, by rw [hclose], .last ht⟩
    · rename_i rest' hcomma
      obtain ⟨p, hp, heq⟩ := Option.map_eq_some_iff.1 hitems
      obtain ⟨rfl, rfl⟩ := Prod.mk.inj heq
      obtain ⟨t', rfl, ht'⟩ := h.items hp
      exact ⟨t ++ ',' :: t', by rw [hcomma]; simp, .more ht ht'⟩
    · cases hitems

theorem fields_succ (h : Sound fuel) {fs : List (String × Json)}
    (hfields : fields? (fuel + 1) depth s = some (fs, r)) :
    ∃ t, s = t ++ '}' :: r ∧ Members t fs := by
  rw [fields?] at hfields
  split at hfields
  · rename_i q hopen
    split at hfields
    · cases hfields
    · rename_i k rest hk
      split at hfields
      · rename_i rest' hcolon
        split at hfields
        · cases hfields
        · rename_i v behind hv
          obtain ⟨t, rfl, ht⟩ := h.member hopen hk hcolon hv
          split at hfields
          · rename_i hclose
            obtain ⟨rfl, rfl⟩ := Prod.mk.inj (Option.some.inj hfields)
            exact ⟨t, by rw [hclose], .last ht⟩
          · rename_i more hcomma
            obtain ⟨p, hp, heq⟩ := Option.map_eq_some_iff.1 hfields
            obtain ⟨rfl, rfl⟩ := Prod.mk.inj heq
            obtain ⟨t', rfl, ht'⟩ := h.fields hp
            exact ⟨t ++ ',' :: t', by rw [hcomma]; simp, .more ht ht'⟩
          · cases hfields
      · cases hfields
  · cases hfields

theorem value_succ (h : Sound fuel) (hv : value? (fuel + 1) depth s = some (v, r)) :
    ∃ before t, Blank before ∧ s = before ++ (t ++ r) ∧ Denotes t v := by
  obtain ⟨before, hbefore, hs⟩ := exists_blank_append s
  suffices hfront : ∃ t, skipSpace s = t ++ r ∧ Denotes t v by
    obtain ⟨t, ht, hdenotes⟩ := hfront
    exact ⟨before, t, hbefore, ht ▸ hs, hdenotes⟩
  rw [value?] at hv
  split at hv
  · rename_i hfront
    obtain ⟨rfl, rfl⟩ := Prod.mk.inj (Option.some.inj hv)
    exact ⟨_, hfront, .null⟩
  · rename_i hfront
    obtain ⟨rfl, rfl⟩ := Prod.mk.inj (Option.some.inj hv)
    exact ⟨_, hfront, .true⟩
  · rename_i hfront
    obtain ⟨rfl, rfl⟩ := Prod.mk.inj (Option.some.inj hv)
    exact ⟨_, hfront, .false⟩
  · -- a text
    rename_i rest hopen
    obtain ⟨p, hp, heq⟩ := Option.map_eq_some_iff.1 hv
    obtain ⟨rfl, rfl⟩ := Prod.mk.inj heq
    obtain ⟨q, rfl, hq⟩ := exists_quoted_of_quotedRest? hp
    exact ⟨_, by rw [hopen]; simp, .str hq⟩
  · -- an array, with space or items between its brackets
    rename_i rest hopen
    obtain ⟨blank, hblank, hrest⟩ := exists_blank_append rest
    split at hv
    · cases hv
    · split at hv
      · rename_i hclose
        obtain ⟨rfl, rfl⟩ := Prod.mk.inj (Option.some.inj hv)
        exact ⟨_, by rw [hopen, hrest, hclose]; simp, .empty hblank⟩
      · obtain ⟨p, hp, heq⟩ := Option.map_eq_some_iff.1 hv
        obtain ⟨rfl, rfl⟩ := Prod.mk.inj heq
        obtain ⟨t, ht, hitems⟩ := h.items hp
        exact ⟨'[' :: (blank ++ t ++ [']']), by rw [hopen, hrest, ht]; simp,
          .arr (hitems.blank_append hblank)⟩
  · -- an object
    rename_i rest hopen
    obtain ⟨blank, hblank, hrest⟩ := exists_blank_append rest
    split at hv
    · cases hv
    · split at hv
      · rename_i hclose
        obtain ⟨rfl, rfl⟩ := Prod.mk.inj (Option.some.inj hv)
        exact ⟨_, by rw [hopen, hrest, hclose]; simp, .bare hblank⟩
      · obtain ⟨p, hp, heq⟩ := Option.map_eq_some_iff.1 hv
        obtain ⟨rfl, rfl⟩ := Prod.mk.inj heq
        obtain ⟨t, ht, hfields⟩ := h.fields hp
        exact ⟨'{' :: (blank ++ t ++ ['}']), by rw [hopen, hrest, ht]; simp,
          .obj (hfields.blank_append hblank)⟩
  · exact (exists_number_of_number? hv).imp fun t ht => ⟨ht.1, .number ht.2⟩

/-- The step: all three readers may take one step more. -/
theorem succ (h : Sound fuel) : Sound (fuel + 1) :=
  ⟨h.value_succ, h.items_succ, h.fields_succ⟩

end Sound

end RouteServer.Json
