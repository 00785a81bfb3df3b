import Mathlib.Data.List.Basic
import RouteServer.View.Directory

/-
  **Reading a template with one place** — from its text to its statements.

  A text without opening marks runs up to the next output and is one token, so a template that is a
  text, the output of a variable and another text is read as just these three statements, whatever
  else the two texts hold.  The line end at the end of the template is not part of it.
-/

namespace RouteServer.View

namespace Token

theorem plain_append {s : List Char} (h : '\x7b' ∉ s) (seen r : List Char) :
    plain seen (s ++ r) = plain (s.reverse ++ seen) r := by
  induction s generalizing seen with
  | nil => rfl
  | cons c s ih =>
    have hc : c ≠ '\x7b' := by
      rintro rfl
      exact h List.mem_cons_self
    rw [List.cons_append, plain, ih fun hs => h (List.mem_cons_of_mem _ hs), List.reverse_cons,
      List.append_assoc, List.singleton_append]
    rintro _ _ rfl
    exact absurd rfl hc

/-- A text in which no mark can open. -/
structure Plain (s : List Char) : Prop where
  nonempty : s ≠ []
  closed : '\x7b' ∉ s

/-- Where a plain text ends: at the end of the template or at an output. -/
def EndsText (r : List Char) : Prop := r = [] ∨ ∃ inner, r = '\x7b' :: '\x7b' :: inner

theorem plain_of_endsText {r : List Char} (h : EndsText r) (seen : List Char) :
    plain seen r = (seen.reverse, r) := by
  rcases h with rfl | ⟨inner, rfl⟩
  · rfl
  · rw [plain, if_pos (Or.inl rfl)]

theorem next?_text {s r : List Char} (hs : Plain s) (hr : EndsText r) :
    next? .text (s ++ r) = some (.text s, .text, r) := by
  have hplain : plain [] (s ++ r) = (s, r) := by
    rw [plain_append hs.closed, plain_of_endsText hr, List.append_nil, List.reverse_reverse]
  obtain ⟨c, s, rfl⟩ := List.exists_cons_of_ne_nil hs.nonempty
  have hc : c ≠ '\x7b' := by
    rintro rfl
    exact hs.closed List.mem_cons_self
  rw [next?, List.cons_append, nextOutside?, ← List.cons_append, hplain]
  all_goals simp [hc]

/-- A name of a variable, as it can be written. -/
structure IsName (name : List Char) : Prop where
  starts : ∃ c r, name = c :: r ∧ startsWord c = true
  continues : ∀ c ∈ name, continuesWord c = true

/-- What begins a word is neither left out nor a closing mark. -/
theorem startsWord_bounds {c : Char} (h : startsWord c = true) :
    isSpace c = false ∧ c ≠ '\x7d' := by
  constructor
  · by_contra hne
    simp only [isSpace, Bool.not_eq_false, Bool.or_eq_true, beq_iff_eq] at hne
    rcases hne with (((rfl | rfl) | rfl) | rfl) | rfl <;> exact absurd h (by decide)
  · rintro rfl
    exact absurd h (by decide)

theorem next?_name {name : List Char} (h : IsName name) (r : List Char) :
    next? .output (' ' :: (name ++ ' ' :: r)) =
      some (.word (String.ofList name), .output, ' ' :: r) := by
  obtain ⟨⟨c, s, rfl, hstarts⟩, hcontinues⟩ := h
  obtain ⟨hspace, hclose⟩ := startsWord_bounds hstarts
  have hs : ∀ d ∈ s, continuesWord d = true := fun d hd => hcontinues d (List.mem_cons_of_mem _ hd)
  have hread : read c (s ++ ' ' :: r) = (.word (String.ofList (c :: s)), ' ' :: r) := by
    have hend : continuesWord ' ' = false := by decide
    rw [read, if_pos hstarts, List.takeWhile_append_of_pos hs, List.dropWhile_append_of_pos hs,
      List.takeWhile_cons_of_neg (by simp [hend]), List.dropWhile_cons_of_neg (by simp [hend]),
      List.append_nil]
  have hdrop : (' ' :: (c :: s ++ ' ' :: r)).dropWhile isSpace = c :: (s ++ ' ' :: r) := by
    rw [List.dropWhile_cons_of_pos (by decide), List.cons_append,
      List.dropWhile_cons_of_neg (by simp [hspace])]
  rw [next?, nextInside?, hdrop, Text.stripStart_cons_cons, if_neg hclose]
  simp only [hread]

theorem next?_closeOutput (r : List Char) :
    next? .output (' ' :: '\x7d' :: '\x7d' :: r) = some (.closeOutput, .text, r) := by
  have hdrop : (' ' :: '\x7d' :: '\x7d' :: r).dropWhile isSpace = '\x7d' :: '\x7d' :: r := by
    rw [List.dropWhile_cons_of_pos (by decide), List.dropWhile_cons_of_neg (by decide)]
  rw [next?, nextInside?, hdrop, Text.stripStart_cons_cons, if_pos rfl, Text.stripStart_cons_cons,
    if_pos rfl, Text.stripStart_nil]

theorem dropLineEnd_concat {s : List Char} (h : s.getLast? ≠ some '\r') :
    dropLineEnd (s ++ ['\n']) = s := by
  have hend : Text.stripEnd ['\n'] (s ++ ['\n']) = some s := Text.stripEnd_eq_some_iff.2 rfl
  have hreturn : Text.stripEnd ['\r'] s = none := by
    rw [Option.eq_none_iff_forall_ne_some]
    intro t ht
    apply h
    rw [Text.stripEnd_eq_some_iff.1 ht, List.getLast?_concat]
  rw [dropLineEnd, hend, Option.getD_some, hreturn, Option.getD_none]

theorem readAll_succ {place next : Place} {s r : List Char} {t : Token}
    (h : next? place s = some (t, next, r)) (n : Nat) :
    readAll (n + 1) place s = t :: readAll n next r := by
  rw [readAll, h]

/-- The tokens of a template that has one place for a variable. -/
theorem ofText_output {front name back : List Char} (hfront : Plain front) (hname : IsName name)
    (hback : Plain back) (hend : back.getLast? ≠ some '\r') :
    ofText (front ++ "\x7b\x7b ".toList ++ name ++ " \x7d\x7d".toList ++ back ++ ['\n']) =
      [.text front, .openOutput, .word (String.ofList name), .closeOutput, .text back] := by
  have hline := dropLineEnd_concat
    (s := front ++ "\x7b\x7b ".toList ++ name ++ " \x7d\x7d".toList ++ back)
    (by rwa [List.getLast?_append_of_ne_nil _ hback.nonempty])
  have htext : front ++ "\x7b\x7b ".toList ++ name ++ " \x7d\x7d".toList ++ back =
      front ++ '\x7b' :: '\x7b' :: ' ' :: (name ++ ' ' :: '\x7d' :: '\x7d' :: back) := by
    simp
  have hfirst := next?_text hfront
    (Or.inr ⟨' ' :: (name ++ ' ' :: '\x7d' :: '\x7d' :: back), rfl⟩)
  have hlast := next?_text hback (Or.inl rfl)
  rw [List.append_nil] at hlast
  obtain ⟨n, hn⟩ : ∃ n, (front ++ '\x7b' :: '\x7b' :: ' ' ::
      (name ++ ' ' :: '\x7d' :: '\x7d' :: back)).length + 1 = n + 6 := by
    refine ⟨front.length + name.length + back.length + 1, ?_⟩
    simp only [List.length_append, List.length_cons]
    omega
  rw [ofText, hline, htext, hn, readAll_succ hfirst, readAll_succ rfl,
    readAll_succ (next?_name hname _), readAll_succ (next?_closeOutput _), readAll_succ hlast]
  rfl

end Token

/-- A template that has one place for a variable is read. -/
theorem Template.parse_output {front name back : List Char}
    (hfront : Token.Plain front) (hname : Token.IsName name)
    (hconstant : Expr.constant? (String.ofList name) = none) (hback : Token.Plain back)
    (hend : back.getLast? ≠ some '\r') :
    parse (front ++ "\x7b\x7b ".toList ++ name ++ " \x7d\x7d".toList ++ back ++ ['\n']) =
      .ok ⟨[.text front, .output (.variable (String.ofList name)), .text back], []⟩ := by
  have hword : Expr.ofWord (String.ofList name) = .variable (String.ofList name) := by
    rw [Expr.ofWord, hconstant]
    rfl
  have hread : Stmt.readAll 36 maxDepth
        ⟨[.text front, .openOutput, .word (String.ofList name), .closeOutput, .text back], []⟩ =
      .ok ⟨[.text front, .output (.variable (String.ofList name)), .text back], none,
        ⟨[], []⟩⟩ := by
    simp [maxDepth, Stmt.readAll, Stmt.Source.expr, Expr.nested, Expr.whole, Expr.operand,
      Expr.parts, Expr.filters, hword, Token.expect, Stmt.Body.cons, bind, Except.bind, pure,
      Except.pure]
  rw [parse, Token.ofText_output hfront hname hback hend]
  simp only [List.length_cons, List.length_nil, Nat.reduceAdd, Nat.reduceMul, hread]
  rfl

theorem Library.ofDirectory_of_read {files : FileTree} {base name file : String}
    {bytes : List UInt8} {text : List Char} (hfile : FileTree.below? base name = some file)
    (hread : files.read file = .ok bytes) (htext : Text.Utf8.decode? bytes = some text) :
    Library.ofDirectory files base name = Template.parse text := by
  have hbytes : (files.read file).toOption = some bytes := by
    rw [hread]
    rfl
  rw [ofDirectory, hfile, Option.bind_some, hbytes]
  simp only [htext]

end RouteServer.View
