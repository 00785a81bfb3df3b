import RouteServer.Http.HeaderBlock
import RouteServer.Proofs.Text.Utf8
import RouteServer.Text.Alphanumeric
import RouteServer.Text.Blank

/-
  **Header lines as they are sent** — what a block of well-formed lines is read as.

  A line is sent as its name, a colon, its text and a line break.  The name holds no colon and the
  text no line break, so each run of the reader ends where the sender began the next piece, whatever
  follows the block.
-/

namespace RouteServer

/-! ### Runs of bytes

A reader takes as many bytes of a class as there are.  Behind a run of them stands a byte of another
class, and the reader stops there. -/

section Runs

variable {p : UInt8 → Bool} {run : List UInt8} {b : UInt8}

theorem takeWhile_run (hrun : ∀ x ∈ run, p x = true) (hb : p b = false) (r : List UInt8) :
    (run ++ b :: r).takeWhile p = run := by
  rw [List.takeWhile_append_of_pos hrun, List.takeWhile_cons_of_neg (by simp [hb]),
    List.append_nil]

theorem dropWhile_run (hrun : ∀ x ∈ run, p x = true) (hb : p b = false) (r : List UInt8) :
    (run ++ b :: r).dropWhile p = b :: r := by
  rw [List.dropWhile_append_of_pos hrun, List.dropWhile_cons_of_neg (by simp [hb])]

end Runs

/-! ### Bytes of a name -/

theorem toNat_lt_of_isTokenChar {c : Char} (h : isTokenChar c = true) : c.toNat < 0x80 := by
  simp only [isTokenChar, Bool.or_eq_true] at h
  rcases h with h | h
  · exact Text.toNat_lt_of_isAlphanum h
  · have hmarks : ['!', '#', '$', '%', '&', '\'', '*', '+', '-', '.', '^', '_', '\x60', '|',
        '~'].all (fun d => decide (d.toNat < 0x80)) = true := by decide
    exact of_decide_eq_true (List.all_eq_true.1 hmarks c (of_decide_eq_true h))

namespace HeaderBlock

variable {s : List Char}

theorem ofNat_toNat_ofNat {c : Char} (h : c.toNat < 0x80) :
    Char.ofNat (UInt8.ofNat c.toNat).toNat = c := by
  rw [Text.Utf8.toNat_ofNat_of_lt_256 (by omega), Char.ofNat_toNat]

theorem asciiText_encode (h : ∀ c ∈ s, c.toNat < 0x80) :
    asciiText (Text.Utf8.encode s) = String.ofList s := by
  have hback : ∀ c ∈ s, Char.ofNat (UInt8.ofNat c.toNat).toNat = c := fun c hc =>
    ofNat_toNat_ofNat (h c hc)
  rw [asciiText, Text.Utf8.encode_of_ascii h, List.map_map]
  exact congrArg String.ofList ((List.map_congr_left hback).trans (List.map_id' s))

theorem toNat_charOfNat {n : Nat} (h : n < 0x80) : (Char.ofNat n).toNat = n :=
  Text.Utf8.toNat_charOfNat_of_valid (Or.inl (by omega))

theorem encodeString_asciiText {bytes : List UInt8} (h : ∀ b ∈ bytes, b.toNat < 0x80) :
    Text.Utf8.encodeString (asciiText bytes) = bytes := by
  have hascii : ∀ c ∈ bytes.map fun b => Char.ofNat b.toNat, c.toNat < 0x80 := by
    intro c hc
    obtain ⟨b, hb, rfl⟩ := List.mem_map.1 hc
    rw [toNat_charOfNat (h b hb)]
    exact h b hb
  have hback : ∀ b ∈ bytes, UInt8.ofNat (Char.ofNat b.toNat).toNat = b := by
    intro b hb
    rw [toNat_charOfNat (h b hb), UInt8.ofNat_toNat]
  rw [asciiText, Text.Utf8.encodeString, String.toList_ofList, Text.Utf8.encode_of_ascii hascii,
    List.map_map]
  exact (List.map_congr_left hback).trans (List.map_id' bytes)

theorem isNameByte_of_mem_encode (h : ∀ c ∈ s, isTokenChar c = true) :
    ∀ b ∈ Text.Utf8.encode s, isNameByte b = true := by
  rw [Text.Utf8.encode_of_ascii fun c hc => toNat_lt_of_isTokenChar (h c hc)]
  intro b hb
  obtain ⟨c, hc, rfl⟩ := List.mem_map.1 hb
  rw [isNameByte, ofNat_toNat_ofNat (toNat_lt_of_isTokenChar (h c hc))]
  exact h c hc

theorem isTokenChar_of_mem {name : String} (h : isToken name = true) :
    ∀ c ∈ name.toList, isTokenChar c = true := by
  rw [isToken, Bool.and_eq_true] at h
  exact List.all_eq_true.1 h.2

theorem isNameByte_of_isToken {name : String} (h : isToken name = true) :
    ∀ b ∈ Text.Utf8.encodeString name, isNameByte b = true :=
  isNameByte_of_mem_encode (isTokenChar_of_mem h)

theorem asciiText_encodeString {name : String} (h : isToken name = true) :
    asciiText (Text.Utf8.encodeString name) = name := by
  rw [Text.Utf8.encodeString,
    asciiText_encode fun c hc => toNat_lt_of_isTokenChar (isTokenChar_of_mem h c hc),
    String.ofList_toList]

/-- A token begins with a byte of a name. -/
theorem exists_encodeString_eq_cons {name : String} (h : isToken name = true) :
    ∃ b rest, Text.Utf8.encodeString name = b :: rest ∧ isNameByte b = true := by
  have hbytes := isNameByte_of_isToken h
  have hascii : ∀ c ∈ name.toList, c.toNat < 0x80 := fun c hc =>
    toNat_lt_of_isTokenChar (isTokenChar_of_mem h c hc)
  rw [Text.Utf8.encodeString] at hbytes ⊢
  cases hname : name.toList with
  | nil =>
    have hempty : name = "" := String.toList_inj.1 hname
    simp [isToken, hempty] at h
  | cons c s =>
    rw [hname] at hbytes hascii
    rw [Text.Utf8.encode_of_ascii hascii] at hbytes ⊢
    exact ⟨_, _, rfl, hbytes _ List.mem_cons_self⟩

/-! ### One line -/

/-- A line as it is sent; its text is the value with the padding around it. -/
structure Line where
  name : String
  text : List UInt8

namespace Line

def print (l : Line) : List UInt8 :=
  Text.Utf8.encodeString l.name ++ 0x3A :: (l.text ++ [0x0D, 0x0A])

/-- The name is a token, and the text has no control character but the tab. -/
def WellFormed (l : Line) : Prop := isToken l.name = true ∧ ∀ b ∈ l.text, isValueByte b = true

instance (l : Line) : Decidable l.WellFormed :=
  @instDecidableAnd _ _ inferInstance (List.decidableBAll _ _)

def header (l : Line) : Header := ⟨l.name, Text.trimBy isPadding l.text⟩

end Line

theorem readLine?_print {l : Line} (h : l.WellFormed) (rest : List UInt8) :
    readLine? (l.print ++ rest) = some (l.header, rest) := by
  have hname := isNameByte_of_isToken h.1
  have hcolon : isNameByte 0x3A = false := by decide
  obtain ⟨b, name, hcons, -⟩ := exists_encodeString_eq_cons h.1
  have hprint : l.print ++ rest =
      Text.Utf8.encodeString l.name ++ 0x3A :: (l.text ++ 0x0D :: 0x0A :: rest) := by
    simp [Line.print]
  have htake : (l.print ++ rest).takeWhile isNameByte = Text.Utf8.encodeString l.name := by
    rw [hprint, takeWhile_run hname hcolon]
  have hdrop : (l.print ++ rest).dropWhile isNameByte =
      0x3A :: (l.text ++ 0x0D :: 0x0A :: rest) := by
    rw [hprint, dropWhile_run hname hcolon]
  -- the text without the padding in front is still made of value bytes only
  have htext : ∀ b ∈ l.text.dropWhile isPadding, isValueByte b = true := fun b hb =>
    h.2 b ((List.dropWhile_sublist _).subset hb)
  have hbreak : isValueByte 0x0D = false := by decide
  have hempty : (Text.Utf8.encodeString l.name).isEmpty = false := by
    rw [hcons, List.isEmpty_cons]
  simp only [readLine?, htake, hdrop, hempty, Bool.false_eq_true, if_false]
  rw [Text.dropWhile_append_cons (by decide), takeWhile_run htext hbreak,
    dropWhile_run htext hbreak, asciiText_encodeString h.1]
  rfl

/-! ### A block -/

theorem dropLineEnd?_of_isNameByte {b : UInt8} (h : isNameByte b = true) (s : List UInt8) :
    dropLineEnd? (b :: s) = none := by
  unfold dropLineEnd?
  split
  · rename_i heq
    obtain ⟨rfl, -⟩ := List.cons.inj heq
    exact absurd h (by decide)
  · rename_i heq
    obtain ⟨rfl, -⟩ := List.cons.inj heq
    exact absurd h (by decide)
  · rfl

theorem dropLineEnd?_print {l : Line} (h : l.WellFormed) (rest : List UInt8) :
    dropLineEnd? (l.print ++ rest) = none := by
  obtain ⟨b, name, hcons, hb⟩ := exists_encodeString_eq_cons h.1
  rw [Line.print, hcons, List.cons_append, List.cons_append]
  exact dropLineEnd?_of_isNameByte hb _

/-- The lines of a block are read one by one, up to the empty line behind them. -/
theorem readLines?_print {limit : Nat} {lines : List Line} (h : ∀ l ∈ lines, l.WellFormed)
    (hlimit : lines.length ≤ limit) (rest : List UInt8) :
    readLines? limit (lines.flatMap Line.print ++ 0x0D :: 0x0A :: rest) =
      some (lines.map Line.header, rest) := by
  induction lines generalizing limit with
  | nil =>
    unfold readLines?
    rfl
  | cons l lines ih =>
    have hl := h l List.mem_cons_self
    cases limit with
    | zero => simp at hlimit
    | succ limit =>
      rw [List.flatMap_cons, List.append_assoc, readLines?, dropLineEnd?_print hl,
        readLine?_print hl]
      simp only
      rw [ih (fun m hm => h m (List.mem_cons_of_mem l hm)) (Nat.le_of_succ_le_succ hlimit)]
      rfl

end HeaderBlock

end RouteServer
