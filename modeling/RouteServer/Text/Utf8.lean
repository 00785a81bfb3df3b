/-
  **UTF-8** — bytes of a request or a file as text.

  Reading goes sequence by sequence.  A lead byte fixes how many continuation bytes follow and the
  range of the first of them, which excludes overlong forms, surrogates and code points beyond
  U+10FFFF.  `decodeLossy` puts U+FFFD for every ill-formed sequence, taking as many bytes into
  it as begin a well-formed one, and always one at least; `decode?` refuses such bytes instead.
-/

namespace RouteServer.Text.Utf8

def encode (s : List Char) : List UInt8 := s.flatMap String.utf8EncodeChar

def encodeString (s : String) : List UInt8 := encode s.toList

/-- What a lead byte announces: its payload, the number of continuation bytes, and the range of
    the first of them. -/
structure Lead where
  payload : Nat
  more : Nat
  low : UInt8
  high : UInt8

def Lead.ofByte? (b : UInt8) : Option Lead :=
  if b < 0x80 then some ⟨b.toNat, 0, 0x80, 0xBF⟩
  else if b < 0xC2 then none
  else if b < 0xE0 then some ⟨b.toNat - 0xC0, 1, 0x80, 0xBF⟩
  else if b = 0xE0 then some ⟨0, 2, 0xA0, 0xBF⟩
  else if b = 0xED then some ⟨0xD, 2, 0x80, 0x9F⟩
  else if b < 0xF0 then some ⟨b.toNat - 0xE0, 2, 0x80, 0xBF⟩
  else if b = 0xF0 then some ⟨0, 3, 0x90, 0xBF⟩
  else if b < 0xF4 then some ⟨b.toNat - 0xF0, 3, 0x80, 0xBF⟩
  else if b = 0xF4 then some ⟨4, 3, 0x80, 0x8F⟩
  else none

/-- Reads continuation bytes onto a payload, up to the first that does not fit. -/
def continuation (low high : UInt8) (payload : Nat) : Nat → List UInt8 → Option Nat × List UInt8
  | 0, r => (some payload, r)
  | _ + 1, [] => (none, [])
  | k + 1, b :: r =>
    if low ≤ b && b ≤ high then continuation 0x80 0xBF (payload * 64 + (b.toNat - 0x80)) k r
    else (none, b :: r)

theorem continuation_length_le (low high : UInt8) (payload k : Nat) (s : List UInt8) :
    (continuation low high payload k s).2.length ≤ s.length := by
  induction k generalizing low high payload s with
  | zero => simp [continuation]
  | succ k ih =>
    cases s with
    | nil => simp [continuation]
    | cons b r =>
      simp only [continuation]
      split
      · exact Nat.le_trans (ih _ _ _ r) (by simp)
      · simp

/-- The first character of `b :: r`, or nothing where an ill-formed sequence stands, and the bytes
    after it. -/
def next (b : UInt8) (r : List UInt8) : Option Char × List UInt8 :=
  match Lead.ofByte? b with
  | none => (none, r)
  | some lead =>
    let read := continuation lead.low lead.high lead.payload lead.more r
    (read.1.map Char.ofNat, read.2)

theorem next_length_le (b : UInt8) (r : List UInt8) : (next b r).2.length ≤ r.length := by
  simp only [next]
  split
  · simp
  · exact continuation_length_le ..

/-- The character that stands for an ill-formed sequence. -/
def replacement : Char := Char.ofNat 0xFFFD

/-- Reads bytes as text, a replacement character standing for each ill-formed sequence. -/
def decodeLossy : List UInt8 → List Char
  | [] => []
  | b :: r =>
    have := next_length_le b r
    (next b r).1.getD replacement :: decodeLossy (next b r).2
termination_by s => s.length

/-- Reads bytes as text; nothing when a sequence is ill-formed. -/
def decode? : List UInt8 → Option (List Char)
  | [] => some []
  | b :: r =>
    have := next_length_le b r
    match (next b r).1 with
    | none => none
    | some c => (decode? (next b r).2).map (c :: ·)
termination_by s => s.length

def decodeLossyString (bytes : List UInt8) : String := String.ofList (decodeLossy bytes)

def decodeString? (bytes : List UInt8) : Option String := (decode? bytes).map String.ofList

/-- Where reading succeeds, nothing had to be replaced. -/
theorem decodeLossy_eq_of_decode? {bytes : List UInt8} {s : List Char}
    (h : decode? bytes = some s) : decodeLossy bytes = s := by
  fun_induction decode? bytes generalizing s with
  | case1 => simpa [decodeLossy] using h
  | case2 b r _ _ => simp at h
  | case3 b r _ c hc ih =>
    obtain ⟨t, ht, rfl⟩ := Option.map_eq_some_iff.1 h
    rw [decodeLossy, ih ht, hc]
    rfl

end RouteServer.Text.Utf8
