import RouteServer.Text.Utf8

/-
  **UTF-8 there and back** — text that is written as bytes is read again as it was.

  `next_encodeChar` is the step: the bytes of one character, in front of anything, are read as that
  character.  A lead byte tells its payload and how far the first continuation byte may range; the
  narrow ranges behind four of the lead bytes are just those that a character needs.  Bytes below
  0x80 stand for themselves, so a mark that is not in the text is not in its bytes.
-/

namespace RouteServer.Text.Utf8

/-! ### Lead bytes -/

theorem ofByte?_one {b : UInt8} (h : b.toNat < 0x80) :
    Lead.ofByte? b = some ⟨b.toNat, 0, 0x80, 0xBF⟩ := by
  rw [Lead.ofByte?, if_pos (by rw [UInt8.lt_iff_toNat_lt]; exact h)]

theorem ofByte?_two {b : UInt8} (hlow : 0xC2 ≤ b.toNat) (hhigh : b.toNat < 0xE0) :
    Lead.ofByte? b = some ⟨b.toNat - 0xC0, 1, 0x80, 0xBF⟩ := by
  simp only [Lead.ofByte?, UInt8.lt_iff_toNat_lt]
  rw [if_neg (by simp; omega), if_neg (by simp; omega), if_pos (by simp; omega)]

theorem ofByte?_three {b : UInt8} (hlow : 0xE0 ≤ b.toNat) (hhigh : b.toNat < 0xF0) :
    Lead.ofByte? b = some ⟨b.toNat - 0xE0, 2, if b.toNat = 0xE0 then 0xA0 else 0x80,
      if b.toNat = 0xED then 0x9F else 0xBF⟩ := by
  simp only [Lead.ofByte?, UInt8.lt_iff_toNat_lt, ← UInt8.toNat_inj]
  rw [if_neg (by simp; omega), if_neg (by simp; omega), if_neg (by simp; omega)]
  by_cases hfirst : b.toNat = 0xE0
  · simp [hfirst]
  · by_cases hsurrogate : b.toNat = 0xED
    · simp [hsurrogate]
    · simp [hfirst, hsurrogate, hhigh]

theorem ofByte?_four {b : UInt8} (hlow : 0xF0 ≤ b.toNat) (hhigh : b.toNat ≤ 0xF4) :
    Lead.ofByte? b = some ⟨b.toNat - 0xF0, 3, if b.toNat = 0xF0 then 0x90 else 0x80,
      if b.toNat = 0xF4 then 0x8F else 0xBF⟩ := by
  simp only [Lead.ofByte?, UInt8.lt_iff_toNat_lt, ← UInt8.toNat_inj]
  rw [if_neg (by simp; omega), if_neg (by simp; omega), if_neg (by simp; omega),
    if_neg (by simp; omega), if_neg (by simp; omega), if_neg (by simp; omega)]
  by_cases hfirst : b.toNat = 0xF0
  · simp [hfirst]
  · by_cases hlast : b.toNat = 0xF4
    · simp [hlast]
    · have hless : b.toNat < 0xF4 := by omega
      simp [hfirst, hlast, hless]

theorem continuation_cons {low high b : UInt8} (hlow : low.toNat ≤ b.toNat)
    (hhigh : b.toNat ≤ high.toNat) (payload k : Nat) (r : List UInt8) :
    continuation low high payload (k + 1) (b :: r) =
      continuation 0x80 0xBF (payload * 64 + (b.toNat - 0x80)) k r := by
  have hrange : (low ≤ b && b ≤ high) = true := by
    simp [UInt8.le_iff_toNat_le, hlow, hhigh]
  rw [continuation, if_pos hrange]

/-! ### One character -/

section CodePoints

variable {n : Nat} (s : List UInt8)

theorem toNat_ofNat_of_lt_256 {m : Nat} (h : m < 256) : (UInt8.ofNat m).toNat = m :=
  UInt8.toNat_ofNat_of_lt' h

theorem next_one (h : n < 0x80) : next (UInt8.ofNat n) s = (some (Char.ofNat n), s) := by
  have hlead := toNat_ofNat_of_lt_256 (m := n) (by omega)
  rw [next, ofByte?_one (by omega)]
  simp only [continuation, hlead, Option.map_some]

theorem next_two (hlow : 0x80 ≤ n) (hhigh : n < 0x800) :
    next (UInt8.ofNat (n / 64 % 32 + 192)) (UInt8.ofNat (n % 64 + 128) :: s) =
      (some (Char.ofNat n), s) := by
  have hlead := toNat_ofNat_of_lt_256 (m := n / 64 % 32 + 192) (by omega)
  have hlast := toNat_ofNat_of_lt_256 (m := n % 64 + 128) (by omega)
  have hpayload : (n / 64 % 32 + 192 - 0xC0) * 64 + (n % 64 + 128 - 0x80) = n := by omega
  rw [next, ofByte?_two (by omega) (by omega)]
  simp only [hlead]
  rw [continuation_cons (by rw [hlast]; simp) (by rw [hlast]; simp; omega), hlast, hpayload]
  rfl

theorem next_three (hlow : 0x800 ≤ n) (hhigh : n < 0x10000) (hvalid : n < 0xD800 ∨ 0xDFFF < n) :
    next (UInt8.ofNat (n / 4096 % 16 + 224))
        (UInt8.ofNat (n / 64 % 64 + 128) :: UInt8.ofNat (n % 64 + 128) :: s) =
      (some (Char.ofNat n), s) := by
  have hlead := toNat_ofNat_of_lt_256 (m := n / 4096 % 16 + 224) (by omega)
  have hmiddle := toNat_ofNat_of_lt_256 (m := n / 64 % 64 + 128) (by omega)
  have hlast := toNat_ofNat_of_lt_256 (m := n % 64 + 128) (by omega)
  have hpayload : ((n / 4096 % 16 + 224 - 0xE0) * 64 + (n / 64 % 64 + 128 - 0x80)) * 64 +
      (n % 64 + 128 - 0x80) = n := by omega
  rw [next, ofByte?_three (by omega) (by omega)]
  simp only [hlead]
  -- the first continuation byte is held back from overlong forms and from surrogates
  rw [continuation_cons (by rw [hmiddle]; split <;> simp; omega)
      (by rw [hmiddle]; split <;> simp <;> omega),
    continuation_cons (by rw [hlast]; simp) (by rw [hlast]; simp; omega), hmiddle, hlast, hpayload]
  rfl

theorem next_four (hlow : 0x10000 ≤ n) (hhigh : n < 0x110000) :
    next (UInt8.ofNat (n / 262144 % 8 + 240))
        (UInt8.ofNat (n / 4096 % 64 + 128) :: UInt8.ofNat (n / 64 % 64 + 128) ::
          UInt8.ofNat (n % 64 + 128) :: s) =
      (some (Char.ofNat n), s) := by
  have hlead := toNat_ofNat_of_lt_256 (m := n / 262144 % 8 + 240) (by omega)
  have hsecond := toNat_ofNat_of_lt_256 (m := n / 4096 % 64 + 128) (by omega)
  have hthird := toNat_ofNat_of_lt_256 (m := n / 64 % 64 + 128) (by omega)
  have hlast := toNat_ofNat_of_lt_256 (m := n % 64 + 128) (by omega)
  have hpayload : (((n / 262144 % 8 + 240 - 0xF0) * 64 + (n / 4096 % 64 + 128 - 0x80)) * 64 +
      (n / 64 % 64 + 128 - 0x80)) * 64 + (n % 64 + 128 - 0x80) = n := by omega
  rw [next, ofByte?_four (by omega) (by omega)]
  simp only [hlead]
  -- the first continuation byte is held back from overlong forms and from the end of the code space
  rw [continuation_cons (by rw [hsecond]; split <;> simp; omega)
      (by rw [hsecond]; split <;> simp <;> omega),
    continuation_cons (by rw [hthird]; simp) (by rw [hthird]; simp; omega),
    continuation_cons (by rw [hlast]; simp) (by rw [hlast]; simp; omega), hsecond, hthird, hlast,
    hpayload]
  rfl

end CodePoints

/-- The bytes of a character are read as that character, whatever follows them. -/
theorem next_encodeChar (c : Char) (s : List UInt8) :
    ∃ b r, String.utf8EncodeChar c = b :: r ∧ next b (r ++ s) = (some c, s) := by
  have hvalid : c.toNat < 0xD800 ∨ 0xDFFF < c.toNat ∧ c.toNat < 0x110000 := c.valid
  have hback := Char.ofNat_toNat c
  have hval : c.val.toNat = c.toNat := rfl
  simp only [String.utf8EncodeChar, hval]
  by_cases hone : c.toNat ≤ 127
  · refine ⟨_, _, if_pos hone, ?_⟩
    rw [List.nil_append, next_one s (by omega), hback]
  rw [if_neg hone]
  by_cases htwo : c.toNat ≤ 2047
  · refine ⟨_, _, if_pos htwo, ?_⟩
    rw [List.cons_append, List.nil_append, next_two s (by omega) (by omega), hback]
  rw [if_neg htwo]
  by_cases hthree : c.toNat ≤ 65535
  · refine ⟨_, _, if_pos hthree, ?_⟩
    rw [List.cons_append, List.cons_append, List.nil_append,
      next_three s (by omega) (by omega) (by omega), hback]
  · refine ⟨_, _, if_neg hthree, ?_⟩
    rw [List.cons_append, List.cons_append, List.cons_append, List.nil_append,
      next_four s (by omega) (by omega), hback]

/-! ### Texts -/

theorem encode_cons (c : Char) (s : List Char) :
    encode (c :: s) = String.utf8EncodeChar c ++ encode s := List.flatMap_cons

theorem encode_append (s t : List Char) : encode (s ++ t) = encode s ++ encode t :=
  List.flatMap_append

theorem encodeString_append (s t : String) :
    encodeString (s ++ t) = encodeString s ++ encodeString t := by
  rw [encodeString, String.toList_append, encode_append]
  rfl

theorem decode?_encode (s : List Char) : decode? (encode s) = some s := by
  induction s with
  | nil => rw [encode, List.flatMap_nil, decode?]
  | cons c s ih =>
    obtain ⟨b, r, hchar, hnext⟩ := next_encodeChar c (encode s)
    rw [encode_cons, hchar, List.cons_append, decode?, hnext]
    simp only [ih, Option.map_some]

theorem decodeString?_encodeString (s : String) : decodeString? (encodeString s) = some s := by
  rw [decodeString?, encodeString, decode?_encode, Option.map_some, String.ofList_toList]

theorem decodeLossyString_encodeString (s : String) : decodeLossyString (encodeString s) = s := by
  rw [decodeLossyString, encodeString, decodeLossy_eq_of_decode? (decode?_encode _),
    String.ofList_toList]

theorem encodeChar_of_lt {c : Char} (h : c.toNat < 0x80) :
    String.utf8EncodeChar c = [UInt8.ofNat c.toNat] := by
  have hone : c.val.toNat ≤ 127 := Nat.le_of_lt_succ h
  simp only [String.utf8EncodeChar, if_pos hone]
  rfl

theorem encode_of_ascii {s : List Char} (h : ∀ c ∈ s, c.toNat < 0x80) :
    encode s = s.map fun c => UInt8.ofNat c.toNat := by
  induction s with
  | nil => rfl
  | cons c s ih =>
    rw [encode_cons, encodeChar_of_lt (h c List.mem_cons_self),
      ih fun d hd => h d (List.mem_cons_of_mem c hd)]
    rfl

theorem le_of_mem_encodeChar {c : Char} (h : 0x80 ≤ c.toNat) {b : UInt8}
    (hb : b ∈ String.utf8EncodeChar c) : 0x80 ≤ b.toNat := by
  have hval : c.val.toNat = c.toNat := rfl
  simp only [String.utf8EncodeChar, hval] at hb
  rw [if_neg (by omega)] at hb
  split at hb
  · simp only [List.mem_cons, List.not_mem_nil, or_false] at hb
    rcases hb with rfl | rfl <;> rw [toNat_ofNat_of_lt_256 (by omega)] <;> omega
  · split at hb
    · simp only [List.mem_cons, List.not_mem_nil, or_false] at hb
      rcases hb with rfl | rfl | rfl <;> rw [toNat_ofNat_of_lt_256 (by omega)] <;> omega
    · simp only [List.mem_cons, List.not_mem_nil, or_false] at hb
      rcases hb with rfl | rfl | rfl | rfl <;> rw [toNat_ofNat_of_lt_256 (by omega)] <;> omega

/-- A byte below 0x80 is a character of the text. -/
theorem exists_mem_of_mem_encode {s : List Char} {b : UInt8} (hb : b ∈ encode s)
    (hlow : b.toNat < 0x80) : ∃ c ∈ s, c.toNat = b.toNat := by
  obtain ⟨c, hc, hmem⟩ := List.mem_flatMap.1 hb
  by_cases hchar : c.toNat < 0x80
  · rw [encodeChar_of_lt hchar, List.mem_singleton] at hmem
    exact ⟨c, hc, by rw [hmem, toNat_ofNat_of_lt_256 (by omega)]⟩
  · have hhigh := le_of_mem_encodeChar (Nat.le_of_not_lt hchar) hmem
    omega

/-! ### The bytes behind a text -/

section Inverse

variable {n : Nat} {b : UInt8} {r t : List UInt8}

theorem toNat_charOfNat_of_valid (h : n.isValidChar) : (Char.ofNat n).val.toNat = n := by
  rw [Char.ofNat, dif_pos h]
  rfl

end Inverse

end RouteServer.Text.Utf8
