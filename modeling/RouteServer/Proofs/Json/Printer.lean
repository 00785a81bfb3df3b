import RouteServer.Json.Printer
import RouteServer.Proofs.Text.Numeral

/-
  **Texts that need no escape** — how JSON writes texts without quotes, backslashes and control
  characters, and the numbers of users.

  Such a text stands between its quotes as it is, so the printed form of an object of such texts and
  of whole numbers can be written down.
-/

namespace RouteServer.Json

/-- A text that is written between quotes as it is. -/
def Unescaped (s : List Char) : Prop := ∀ c ∈ s, c ≠ '"' ∧ c ≠ '\\' ∧ 0x20 ≤ c.toNat

instance (s : List Char) : Decidable (Unescaped s) := List.decidableBAll _ _

variable {s t : List Char}

theorem Unescaped.append (hs : Unescaped s) (ht : Unescaped t) : Unescaped (s ++ t) := by
  intro c hc
  rcases List.mem_append.1 hc with hc | hc
  · exact hs c hc
  · exact ht c hc

theorem unescaped_of_digits (h : ∀ c ∈ s, c.isDigit = true) : Unescaped s := by
  intro c hc
  have hdigit := h c hc
  obtain ⟨hzero, -⟩ := Text.Numeral.isDigit_iff.1 hdigit
  refine ⟨?_, ?_, Nat.le_trans (by decide) hzero⟩
  · rintro rfl
    exact absurd hdigit (by decide)
  · rintro rfl
    exact absurd hdigit (by decide)

theorem unescaped_toString (n : Nat) : Unescaped (toString n).toList := by
  rw [Nat.toString_eq_ofList_toDigits, String.toList_ofList]
  exact unescaped_of_digits fun c hc => Nat.isDigit_of_mem_toDigits (by decide) (by decide) hc

theorem escapeChar_of_visible {c : Char} (hquote : c ≠ '"') (hback : c ≠ '\\')
    (hvisible : 0x20 ≤ c.toNat) : escapeChar c = [c] := by
  have hne {d : Char} (hd : d.toNat < 0x20) : c ≠ d := by
    rintro rfl
    omega
  rw [escapeChar, if_neg hquote, if_neg hback, if_neg (hne (by decide)), if_neg (hne (by decide)),
    if_neg (hne (by decide)), if_neg (hne (by decide)), if_neg (hne (by decide)),
    if_neg (Nat.not_lt_of_le hvisible)]

theorem quoted_of_unescaped (h : Unescaped s) : quoted s = '"' :: (s ++ ['"']) := by
  have hsame : s.flatMap escapeChar = s := by
    induction s with
    | nil => rfl
    | cons c s ih =>
      obtain ⟨hquote, hback, hvisible⟩ := h c List.mem_cons_self
      rw [List.flatMap_cons, escapeChar_of_visible hquote hback hvisible,
        ih fun d hd => h d (List.mem_cons_of_mem c hd)]
      rfl
  rw [quoted, hsame, List.cons_append]

theorem print_str_of_unescaped {x : String} (h : Unescaped x.toList) :
    print (.str x) = ("\"" ++ x ++ "\"").toList := by
  rw [print, quoted_of_unescaped h]
  simp

theorem print_natCast (n : Nat) : print (.int n) = (toString n).toList := by
  have hsign : ¬ (n : Int) < 0 := by omega
  rw [print, intText, if_neg hsign, Int.natAbs_natCast, Nat.toString_eq_ofList_toDigits,
    String.toList_ofList]
  rfl

/-! ### Objects -/

variable {key text more : String} {v : Json} {field : String × Json}
  {fields : List (String × Json)}

theorem printFields_single (hkey : Unescaped key.toList) (hv : print v = text.toList) :
    printFields [(key, v)] = ("\"" ++ key ++ "\":" ++ text).toList := by
  rw [printFields, quoted_of_unescaped hkey, hv]
  simp

theorem printFields_cons (hkey : Unescaped key.toList) (hv : print v = text.toList)
    (hmore : printFields (field :: fields) = more.toList) :
    printFields ((key, v) :: field :: fields) =
      ("\"" ++ key ++ "\":" ++ text ++ "," ++ more).toList := by
  rw [printFields, quoted_of_unescaped hkey, hv, hmore]
  simp

theorem print_obj (h : printFields fields = text.toList) :
    print (.obj fields) = ("\x7b" ++ text ++ "\x7d").toList := by
  rw [print, h]
  simp

theorem toBytes_eq_encodeString (h : print v = text.toList) :
    v.toBytes = Text.Utf8.encodeString text := by
  rw [toBytes, h]
  rfl

end RouteServer.Json
