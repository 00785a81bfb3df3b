import RouteServer.Route.Template
import Mathlib.Data.List.Basic

/-
  **Templates as text** — where placeholders stand in a template.

  A brace opens a placeholder exactly when the text of a placeholder stands there
  (`ofText_eq_placeholder_iff`), and the same goes for a placeholder of an unknown type.  Such texts
  cannot overlap, for inside one there is no further brace, so a template falls into placeholders
  and single characters in one way only.  `template_induction` is the induction over that, and the
  equations below it say what the two readers do in each of its cases.
-/

namespace RouteServer.Route

/-! ### What an opening brace begins -/

theorem not_mem_of_isWord {s : List Char} {c : Char} (h : Text.isWord s = true)
    (hc : Text.isWordChar c = false) : c ∉ s := by
  intro hmem
  rw [Text.isWordChar_of_mem h hmem] at hc
  cases hc

theorem Kind.ofTag?_eq_some_iff {tag : String} {k : Kind} : ofTag? tag = some k ↔ tag = k.tag := by
  constructor
  · intro h
    simp only [ofTag?] at h
    split at h
    · cases h
      assumption
    · split at h
      · cases h
        assumption
      · cases h
  · rintro rfl
    cases k <;> rfl

theorem Kind.ofTag?_eq_none_iff {tag : String} :
    ofTag? tag = none ↔ tag ≠ "int" ∧ tag ≠ "str" := by
  by_cases hint : tag = "int"
  · simp [ofTag?, hint]
  · by_cases hstr : tag = "str"
    · simp [ofTag?, hstr]
    · simp [ofTag?, hint, hstr]

def Unsupported.print (u : Unsupported) : List Char :=
  '{' :: u.name.toList ++ ':' :: u.tag.toList ++ ['}']

/-- A word, a colon, and a word that is no type. -/
def Unsupported.WellFormed (u : Unsupported) : Prop :=
  Text.isWord u.name.toList = true ∧ Text.isWord u.tag.toList = true ∧
    u.tag ≠ "int" ∧ u.tag ≠ "str"

theorem ofText_braced {name tag : List Char} (hname : Text.isWord name = true) (htag : '}' ∉ tag)
    (rest : List Char) :
    Opening.ofText (name ++ ':' :: tag ++ '}' :: rest) =
      match Kind.ofTag? (String.ofList tag) with
      | some kind => .placeholder ⟨String.ofList name, kind⟩ rest
      | none =>
        if Text.isWord tag then .unsupported ⟨String.ofList name, String.ofList tag⟩
        else .text := by
  have hclose : '}' ∉ name ++ ':' :: tag := by
    simp [not_mem_of_isWord hname (c := '}') (by decide), htag]
  have hcolon : ':' ∉ name := not_mem_of_isWord hname (by decide)
  cases hkind : Kind.ofTag? (String.ofList tag) <;>
    simp only [Opening.ofText, Text.splitFirst_append hclose, Text.splitFirst_append hcolon, hname,
      hkind, Bool.not_true, Bool.false_eq_true, if_false]

/-- Whatever is more than text has a word, a colon and a closing brace. -/
theorem exists_braced_of_ofText_ne {s : List Char} (h : Opening.ofText s ≠ .text) :
    ∃ name tag rest, s = name ++ ':' :: tag ++ '}' :: rest ∧ Text.isWord name = true ∧
      '}' ∉ tag := by
  unfold Opening.ofText at h
  split at h
  · exact absurd rfl h
  · rename_i inside rest hclose
    obtain ⟨rfl, hinside⟩ := Text.splitFirst_eq_some hclose
    split at h
    · exact absurd rfl h
    · rename_i name tag hcolon
      obtain ⟨rfl, -⟩ := Text.splitFirst_eq_some hcolon
      split at h
      · exact absurd rfl h
      · rename_i hname
        exact ⟨name, tag, rest, rfl, by simpa using hname,
          fun hmem => hinside (by simp [hmem])⟩

theorem Kind.close_not_mem_tag (k : Kind) : '}' ∉ k.tag.toList := by
  cases k <;> decide

/-- An opening brace begins a placeholder exactly when the text of one stands there. -/
theorem ofText_eq_placeholder_iff {s rest : List Char} {p : Placeholder} :
    Opening.ofText s = .placeholder p rest ↔
      Text.isWord p.name.toList = true ∧ '{' :: s = p.print ++ rest := by
  constructor
  · intro h
    obtain ⟨name, tag, r, rfl, hname, htag⟩ := exists_braced_of_ofText_ne (s := s) (by simp [h])
    rw [ofText_braced hname htag] at h
    split at h
    · rename_i kind hkind
      obtain ⟨rfl, rfl⟩ := Opening.placeholder.inj h
      have htag' : tag = kind.tag.toList := by
        simpa using congrArg String.toList (Kind.ofTag?_eq_some_iff.1 hkind)
      simpa [Placeholder.print, htag'] using hname
    · split at h <;> cases h
  · rintro ⟨hname, hs⟩
    obtain rfl : s = p.name.toList ++ ':' :: p.kind.tag.toList ++ '}' :: rest := by
      simpa [Placeholder.print] using hs
    rw [ofText_braced hname p.kind.close_not_mem_tag, String.ofList_toList,
      Kind.ofTag?_eq_some_iff.2 rfl, String.ofList_toList]

theorem ofText_eq_unsupported_iff {s : List Char} {u : Unsupported} :
    Opening.ofText s = .unsupported u ↔ u.WellFormed ∧ u.print <+: '{' :: s := by
  constructor
  · intro h
    obtain ⟨name, tag, r, rfl, hname, htag⟩ := exists_braced_of_ofText_ne (s := s) (by simp [h])
    rw [ofText_braced hname htag] at h
    split at h
    · cases h
    · rename_i hkind
      split at h
      · rename_i hword
        obtain rfl := Opening.unsupported.inj h
        refine ⟨⟨by simpa using hname, by simpa using hword, Kind.ofTag?_eq_none_iff.1 hkind⟩, r,
          ?_⟩
        simp [Unsupported.print]
      · cases h
  · rintro ⟨⟨hname, htag, hkind⟩, rest, hs⟩
    obtain rfl : s = u.name.toList ++ ':' :: u.tag.toList ++ '}' :: rest := by
      simpa [Unsupported.print] using hs.symm
    have hclose : '}' ∉ u.tag.toList := not_mem_of_isWord htag (by decide)
    rw [ofText_braced hname hclose, String.ofList_toList, Kind.ofTag?_eq_none_iff.2 hkind,
      String.ofList_toList]
    simp only [htag, if_true]

/-! ### Templates fall into placeholders and characters -/

theorem Placeholder.print_eq_cons (p : Placeholder) :
    p.print = '{' :: (p.name.toList ++ ':' :: p.kind.tag.toList ++ ['}']) := by
  simp [Placeholder.print]

/-- A character that cannot stand in the text of a placeholder behind its opening brace. -/
def EndsPlaceholders (c : Char) : Prop := Text.isWordChar c = false ∧ c ≠ ':' ∧ c ≠ '}'

instance (c : Char) : Decidable (EndsPlaceholders c) := inferInstanceAs (Decidable (_ ∧ _))

theorem Placeholder.not_mem_tail_print {p : Placeholder} (hname : Text.isWord p.name.toList = true)
    {c : Char} (hc : EndsPlaceholders c) : c ∉ p.print.tail := by
  obtain ⟨hword, hcolon, hclose⟩ := hc
  have htag : Text.isWord p.kind.tag.toList = true := by cases p.kind <;> decide
  have hinname : c ∉ p.name.toList := not_mem_of_isWord hname hword
  have hintag : c ∉ p.kind.tag.toList := not_mem_of_isWord htag hword
  rw [Placeholder.print_eq_cons, List.tail_cons]
  simp [hinname, hintag, hcolon, hclose]

/-- Inside the text of a placeholder there is no further opening brace. -/
theorem Placeholder.open_not_mem_tail_print {p : Placeholder}
    (hname : Text.isWord p.name.toList = true) : '{' ∉ p.print.tail :=
  Placeholder.not_mem_tail_print hname (by decide)

def PlainFront (s : List Char) : Prop :=
  ∀ p : Placeholder, Text.isWord p.name.toList = true → ¬ p.print <+: s

theorem ofText_ne_placeholder {s : List Char} (h : PlainFront ('{' :: s)) (p : Placeholder)
    (rest : List Char) : Opening.ofText s ≠ .placeholder p rest := by
  intro hplaceholder
  obtain ⟨hname, hs⟩ := ofText_eq_placeholder_iff.1 hplaceholder
  exact h p hname ⟨rest, hs.symm⟩

/-- Induction over a template: it is empty, or begins with a placeholder, or with a character that
    does not begin one. -/
@[elab_as_elim]
theorem template_induction {motive : List Char → Prop} (nil : motive [])
    (placeholder : ∀ (p : Placeholder) (rest : List Char), Text.isWord p.name.toList = true →
      motive rest → motive (p.print ++ rest))
    (char : ∀ (c : Char) (r : List Char), PlainFront (c :: r) → motive r → motive (c :: r))
    (s : List Char) : motive s := by
  induction hn : s.length using Nat.strongRecOn generalizing s with
  | ind n ih =>
    subst hn
    by_cases hplain : PlainFront s
    · cases s with
      | nil => exact nil
      | cons c r => exact char c r hplain (ih r.length (Nat.lt_succ_self _) r rfl)
    · simp only [PlainFront, not_forall, not_not] at hplain
      obtain ⟨p, hname, rest, rfl⟩ := hplain
      have hlt : rest.length < (p.print ++ rest).length := by
        rw [Placeholder.print_eq_cons, List.cons_append, List.length_cons, List.length_append]
        omega
      exact placeholder p rest hname (ih rest.length hlt rest rfl)

/-! ### The readers in each case -/

theorem ofText_of_placeholder {p : Placeholder} (hname : Text.isWord p.name.toList = true)
    (rest : List Char) :
    Opening.ofText (p.name.toList ++ ':' :: p.kind.tag.toList ++ ['}'] ++ rest) =
      .placeholder p rest :=
  ofText_eq_placeholder_iff.2 ⟨hname, by simp [Placeholder.print]⟩

theorem piecesOf_placeholder {p : Placeholder} (hname : Text.isWord p.name.toList = true)
    (rest : List Char) : piecesOf (p.print ++ rest) = .capture p :: piecesOf rest := by
  rw [Placeholder.print_eq_cons, List.cons_append, piecesOf, if_pos rfl]
  split
  · rename_i heq
    rw [ofText_of_placeholder hname] at heq
    cases heq
    rfl
  · rename_i hne
    exact absurd (ofText_of_placeholder hname rest) (hne _ _)

theorem piecesOf_char {c : Char} {r : List Char} (h : PlainFront (c :: r)) :
    piecesOf (c :: r) = .char c :: piecesOf r := by
  rw [piecesOf]
  split
  · rename_i hc
    subst hc
    split
    · rename_i heq
      exact absurd heq (ofText_ne_placeholder h _ _)
    · rfl
  · rfl

/-- A placeholder of an unknown type stands at the front. -/
def Unsupported.Begins (u : Unsupported) (s : List Char) : Prop :=
  u.WellFormed ∧ u.print <+: s

theorem Unsupported.open_of_begins {u : Unsupported} {c : Char} {r : List Char}
    (h : u.Begins (c :: r)) : c = '{' := by
  obtain ⟨-, rest, hrest⟩ := h
  exact (List.cons.inj hrest).1.symm

/-- No text is both a placeholder and one of an unknown type. -/
theorem Unsupported.not_begins_placeholder {p : Placeholder}
    (hname : Text.isWord p.name.toList = true) (u : Unsupported) (rest : List Char) :
    ¬ u.Begins (p.print ++ rest) := by
  intro h
  rw [Placeholder.print_eq_cons, List.cons_append] at h
  have heq := ofText_eq_unsupported_iff.2 h
  rw [ofText_of_placeholder hname] at heq
  cases heq

theorem unsupportedOf_placeholder {p : Placeholder} (hname : Text.isWord p.name.toList = true)
    (rest : List Char) : unsupportedOf (p.print ++ rest) = unsupportedOf rest := by
  rw [Placeholder.print_eq_cons, List.cons_append, unsupportedOf, if_pos rfl]
  split
  · rename_i heq
    rw [ofText_of_placeholder hname] at heq
    cases heq
    rfl
  · rename_i heq
    rw [ofText_of_placeholder hname] at heq
    cases heq
  · rename_i heq
    rw [ofText_of_placeholder hname] at heq
    cases heq

theorem unsupportedOf_of_begins {u : Unsupported} {c : Char} {r : List Char}
    (h : u.Begins (c :: r)) : unsupportedOf (c :: r) = u :: unsupportedOf r := by
  obtain rfl := Unsupported.open_of_begins h
  have hopen := ofText_eq_unsupported_iff.2 h
  rw [unsupportedOf, if_pos rfl]
  split
  · rename_i heq
    rw [hopen] at heq
    cases heq
  · rename_i heq
    rw [hopen] at heq
    cases heq
    rfl
  · rename_i heq
    rw [hopen] at heq
    cases heq

theorem unsupportedOf_char {c : Char} {r : List Char} (hplain : PlainFront (c :: r))
    (h : ∀ u : Unsupported, ¬ u.Begins (c :: r)) :
    unsupportedOf (c :: r) = unsupportedOf r := by
  rw [unsupportedOf]
  split
  · rename_i hc
    subst hc
    split
    · rename_i heq
      exact absurd heq (ofText_ne_placeholder hplain _ _)
    · rename_i heq
      exact absurd (ofText_eq_unsupported_iff.1 heq) (h _)
    · rfl
  · rfl

end RouteServer.Route
