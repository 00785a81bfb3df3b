import RouteServer.Http.Urlencoded
import RouteServer.Proofs.Text.Utf8
import RouteServer.Text.Alphanumeric

/-
  **Urlencoded fields there and back** — fields that are written are read again as they were.

  One byte is the step: what it is written as, in front of anything, is decoded to that byte
  (`percentDecode_encodeByte`).  The order inside the reader matters here, for it takes plus signs
  for spaces before it looks at escapes: a plus sign of the text is written as an escape, and no
  escape holds one.  The marks that stand between names, values and fields are not among the bytes
  that anything is written as (`Written`), so the reader cuts where the writer joined.
-/

namespace RouteServer.Urlencoded

/-! ### The bytes that texts are written as -/

/-- A byte that can stand for a text or for a part of one. -/
def Written (b : UInt8) : Prop := isPlain b = true ∨ b = 0x25 ∨ b = 0x2B

theorem ne_of_isPlain {b mark : UInt8} (h : isPlain b = true) (hmark : isPlain mark = false) :
    b ≠ mark := by
  rintro rfl
  rw [h] at hmark
  cases hmark

theorem isPlain_bounds {b : UInt8} (h : isPlain b = true) : 0x20 < b.toNat ∧ b.toNat < 0x7F := by
  have hall : ∀ n : Fin 256, isPlain (UInt8.ofNat n) = true → 0x20 < n.val ∧ n.val < 0x7F := by
    decide +kernel
  exact hall ⟨b.toNat, b.toNat_lt⟩ (by rw [UInt8.ofNat_toNat]; exact h)

theorem Written.ne {b mark : UInt8} (h : Written b) (hmark : isPlain mark = false)
    (hpercent : (0x25 : UInt8) ≠ mark) (hplus : (0x2B : UInt8) ≠ mark) : b ≠ mark := by
  rcases h with h | rfl | rfl
  · exact ne_of_isPlain h hmark
  · exact hpercent
  · exact hplus

theorem isPlain_hexDigit {n : Nat} (h : n < 16) : isPlain (hexDigit n) = true := by
  have hall : ∀ n : Fin 16, isPlain (hexDigit n) = true := by decide +kernel
  exact hall ⟨n, h⟩

theorem hexValue?_hexDigit {n : Nat} (h : n < 16) : hexValue? (hexDigit n) = some n := by
  have hall : ∀ n : Fin 16, hexValue? (hexDigit n) = some n.val := by decide +kernel
  exact hall ⟨n, h⟩

theorem toNat_div_lt (b : UInt8) : b.toNat / 16 < 16 := by
  have := b.toNat_lt
  omega

theorem toNat_mod_lt (b : UInt8) : b.toNat % 16 < 16 := Nat.mod_lt _ (by decide)

theorem written_of_mem_encodeByte {a b : UInt8} (h : a ∈ encodeByte b) : Written a := by
  unfold encodeByte at h
  split at h
  · exact Or.inr (Or.inr (List.mem_singleton.1 h))
  · split at h
    · case isTrue hplain =>
      rw [List.mem_singleton.1 h]
      exact Or.inl hplain
    · simp only [List.mem_cons, List.not_mem_nil, or_false] at h
      rcases h with rfl | rfl | rfl
      · exact Or.inr (Or.inl rfl)
      · exact Or.inl (isPlain_hexDigit (toNat_div_lt b))
      · exact Or.inl (isPlain_hexDigit (toNat_mod_lt b))

theorem written_of_mem_encodeText {a : UInt8} {s : String} (h : a ∈ encodeText s) : Written a := by
  obtain ⟨b, -, hb⟩ := List.mem_flatMap.1 h
  exact written_of_mem_encodeByte hb

theorem and_not_mem_encodeText (s : String) : 0x26 ∉ encodeText s := fun h =>
  (written_of_mem_encodeText h).ne (by decide) (by decide) (by decide) rfl

theorem equals_not_mem_encodeText (s : String) : 0x3D ∉ encodeText s := fun h =>
  (written_of_mem_encodeText h).ne (by decide) (by decide) (by decide) rfl

/-! ### One text -/

/-- The first step of the reader: plus signs are spaces. -/
def space (b : UInt8) : UInt8 := if b = 0x2B then 0x20 else b

theorem space_of_isPlain {b : UInt8} (h : isPlain b = true) : space b = b :=
  if_neg (ne_of_isPlain h (by decide))

theorem percentDecode_cons_of_ne {b : UInt8} (h : b ≠ 0x25) (rest : List UInt8) :
    percentDecode (b :: rest) = b :: percentDecode rest := by
  rw [percentDecode]
  rintro - - - rfl
  exact absurd rfl h

theorem percentDecode_escape {n m : Nat} (hn : n < 16) (hm : m < 16) (rest : List UInt8) :
    percentDecode (0x25 :: hexDigit n :: hexDigit m :: rest) =
      UInt8.ofNat (n * 16 + m) :: percentDecode rest := by
  rw [percentDecode, hexValue?_hexDigit hn, hexValue?_hexDigit hm]

/-- What a byte is written as is read as that byte, whatever follows it. -/
theorem percentDecode_encodeByte (b : UInt8) (rest : List UInt8) :
    percentDecode ((encodeByte b).map space ++ rest) = b :: percentDecode rest := by
  unfold encodeByte
  split
  · case isTrue hspace =>
    rw [hspace]
    exact percentDecode_cons_of_ne (by decide) rest
  · split
    · case isTrue hplain =>
      rw [List.map_singleton, space_of_isPlain hplain]
      exact percentDecode_cons_of_ne (ne_of_isPlain hplain (by decide)) rest
    · have hhigh := toNat_div_lt b
      have hlow := toNat_mod_lt b
      have hb : b.toNat / 16 * 16 + b.toNat % 16 = b.toNat := Nat.div_add_mod' _ _
      have hmap :
          ([0x25, hexDigit (b.toNat / 16), hexDigit (b.toNat % 16)] : List UInt8).map space =
            [0x25, hexDigit (b.toNat / 16), hexDigit (b.toNat % 16)] := by
        simp only [List.map_cons, List.map_nil, space_of_isPlain (isPlain_hexDigit hhigh),
          space_of_isPlain (isPlain_hexDigit hlow)]
        rfl
      rw [hmap]
      calc percentDecode (0x25 :: hexDigit (b.toNat / 16) :: hexDigit (b.toNat % 16) :: rest)
        _ = UInt8.ofNat (b.toNat / 16 * 16 + b.toNat % 16) :: percentDecode rest :=
          percentDecode_escape hhigh hlow rest
        _ = b :: percentDecode rest := by rw [hb, UInt8.ofNat_toNat]

theorem percentDecode_flatMap (s : List UInt8) :
    percentDecode ((s.flatMap encodeByte).map space) = s := by
  induction s with
  | nil => rw [List.flatMap_nil, List.map_nil, percentDecode]
  | cons b s ih => rw [List.flatMap_cons, List.map_append, percentDecode_encodeByte, ih]

theorem decodeText_encodeText (s : String) : decodeText (encodeText s) = s := by
  have hbytes : percentDecode ((encodeText s).map space) = Text.Utf8.encodeString s :=
    percentDecode_flatMap _
  calc decodeText (encodeText s)
    _ = Text.Utf8.decodeLossyString (percentDecode ((encodeText s).map space)) := rfl
    _ = s := by rw [hbytes, Text.Utf8.decodeLossyString_encodeString]

/-! ### Fields -/

/-- What one field is written as. -/
def encodePiece (f : String × String) : List UInt8 := encodeText f.1 ++ 0x3D :: encodeText f.2

theorem decodePiece_encodePiece (f : String × String) : decodePiece (encodePiece f) = f := by
  rw [decodePiece, encodePiece, Text.splitFirst_append (equals_not_mem_encodeText f.1)]
  simp only [decodeText_encodeText]

theorem isEmpty_encodePiece (f : String × String) : (encodePiece f).isEmpty = false := by
  rw [List.isEmpty_eq_false_iff]
  exact List.append_ne_nil_of_right_ne_nil _ (List.cons_ne_nil _ _)

theorem and_not_mem_encodePiece (f : String × String) : 0x26 ∉ encodePiece f := by
  unfold encodePiece
  intro h
  rcases List.mem_append.1 h with h | h
  · exact and_not_mem_encodeText _ h
  · rcases List.mem_cons.1 h with h | h
    · exact absurd h (by decide)
    · exact and_not_mem_encodeText _ h

/-- Fields are read as they were written, in their order and however often a name occurs. -/
theorem decodeList_encode (fields : List (String × String)) :
    decodeList (encode fields) = fields := by
  have hencode : encode fields = [0x26].intercalate (fields.map encodePiece) := rfl
  rw [hencode, decodeList]
  by_cases hnone : fields = []
  · -- nothing is written for no field, and nothing is read as one piece, which is empty
    subst hnone
    rfl
  · have hpieces : ∀ piece ∈ fields.map encodePiece, 0x26 ∉ piece := by
      intro piece hpiece
      obtain ⟨f, -, rfl⟩ := List.mem_map.1 hpiece
      exact and_not_mem_encodePiece f
    have hfull : ∀ piece ∈ fields.map encodePiece, (!piece.isEmpty) = true := by
      intro piece hpiece
      obtain ⟨f, -, rfl⟩ := List.mem_map.1 hpiece
      rw [isEmpty_encodePiece]
      rfl
    rw [List.splitOn_intercalate _ hpieces (by simpa using hnone), List.filter_eq_self.2 hfull,
      List.map_map]
    exact (List.map_congr_left fun f _ => decodePiece_encodePiece f).trans (List.map_id' fields)

theorem mem_encode {fields : List (String × String)} {b : UInt8} (h : b ∈ encode fields) :
    b = 0x26 ∨ b = 0x3D ∨ Written b := by
  have hpiece : ∀ f, b ∈ encodePiece f → b = 0x3D ∨ Written b := by
    intro f hb
    rcases List.mem_append.1 hb with hb | hb
    · exact Or.inr (written_of_mem_encodeText hb)
    · rcases List.mem_cons.1 hb with hb | hb
      · exact Or.inl hb
      · exact Or.inr (written_of_mem_encodeText hb)
  induction fields with
  | nil => cases h
  | cons f fields ih =>
    cases fields with
    | nil =>
      have hb : b ∈ encodePiece f := by simpa [encode, List.intercalate, encodePiece] using h
      exact Or.inr (hpiece f hb)
    | cons g fields =>
      have hb : b ∈ encodePiece f ++ 0x26 :: encode (g :: fields) := by
        simpa [encode, List.intercalate, encodePiece] using h
      rcases List.mem_append.1 hb with hb | hb
      · exact Or.inr (hpiece f hb)
      · rcases List.mem_cons.1 hb with hb | hb
        · exact Or.inl hb
        · exact ih hb

/-- All of it is visible ASCII. -/
theorem bounds_of_mem_encode {fields : List (String × String)} {b : UInt8}
    (h : b ∈ encode fields) : 0x20 < b.toNat ∧ b.toNat < 0x7F := by
  rcases mem_encode h with rfl | rfl | hplain | rfl | rfl
  · decide
  · decide
  · exact isPlain_bounds hplain
  · decide
  · decide

end RouteServer.Urlencoded
