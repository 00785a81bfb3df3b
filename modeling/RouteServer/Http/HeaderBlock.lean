import RouteServer.Http.Method
import RouteServer.Text.Utf8

/-
  **Header blocks** — the lines in front of a body, in a request and in each part of a form.

  A line is a token, a colon and a value, and ends in a line feed with or without a carriage return
  before it; an empty line ends the block.  Spaces and tabs around a value do not count.  A value
  holds no control character but the tab.  No space may stand before the colon, and no line may be
  folded.  A block has at most sixteen lines.  Whatever breaks one of these rules makes the whole
  block unreadable, and so does a block that has no end.
-/

namespace RouteServer

structure Header where
  name : String
  value : List UInt8
  deriving DecidableEq, Repr

namespace HeaderBlock

def maxLines : Nat := 16

def isNameByte (b : UInt8) : Bool := isTokenChar (Char.ofNat b.toNat)

def isValueByte (b : UInt8) : Bool := b == 0x09 || (0x20 ≤ b && b != 0x7F)

def isPadding (b : UInt8) : Bool := b == 0x20 || b == 0x09

def dropLineEnd? : List UInt8 → Option (List UInt8)
  | 0x0A :: r => some r
  | 0x0D :: 0x0A :: r => some r
  | _ => none

/-- ASCII bytes as text. -/
def asciiText (s : List UInt8) : String := String.ofList (s.map fun b => Char.ofNat b.toNat)

def readLine? (s : List UInt8) : Option (Header × List UInt8) :=
  let name := s.takeWhile isNameByte
  if name.isEmpty then none
  else match s.dropWhile isNameByte with
    | 0x3A :: r =>
      let r := r.dropWhile isPadding
      let value := ((r.takeWhile isValueByte).reverse.dropWhile isPadding).reverse
      (dropLineEnd? (r.dropWhile isValueByte)).map (⟨asciiText name, value⟩, ·)
    | _ => none

/-- The lines up to the empty one, `limit` of them at most, and what follows it. -/
def readLines? (limit : Nat) (s : List UInt8) : Option (List Header × List UInt8) :=
  match dropLineEnd? s with
  | some r => some ([], r)
  | none =>
    match limit with
    | 0 => none
    | limit + 1 =>
      match readLine? s with
      | some (h, r) => (readLines? limit r).map fun b => (h :: b.1, b.2)
      | none => none

def read? (s : List UInt8) : Option (List Header × List UInt8) := readLines? maxLines s

theorem length_le_of_dropLineEnd? {s r : List UInt8} (h : dropLineEnd? s = some r) :
    r.length ≤ s.length := by
  unfold dropLineEnd? at h
  split at h
  · simp_all
  · simp_all
    omega
  · simp at h

theorem length_dropWhile_le (p : UInt8 → Bool) (s : List UInt8) :
    (s.dropWhile p).length ≤ s.length := (List.dropWhile_sublist p).length_le

theorem length_le_of_readLine? {s r : List UInt8} {h : Header} (hr : readLine? s = some (h, r)) :
    r.length ≤ s.length := by
  simp only [readLine?] at hr
  split at hr
  · simp at hr
  · split at hr
    · rename_i t ht
      simp only [Option.map_eq_some_iff, Prod.mk.injEq] at hr
      obtain ⟨u, hu, -, rfl⟩ := hr
      have h1 := length_le_of_dropLineEnd? hu
      have h2 := length_dropWhile_le isValueByte (t.dropWhile isPadding)
      have h3 := length_dropWhile_le isPadding t
      have h4 := length_dropWhile_le isNameByte s
      rw [ht] at h4
      simp only [List.length_cons] at h4
      omega
    · simp at hr

/-- What follows a block is no longer than the input. -/
theorem length_le_of_readLines? {limit : Nat} {s r : List UInt8} {hs : List Header}
    (h : readLines? limit s = some (hs, r)) : r.length ≤ s.length := by
  fun_induction readLines? limit s generalizing hs with
  | case1 limit s u hu =>
    simp only [Option.some.injEq, Prod.mk.injEq] at h
    exact h.2 ▸ length_le_of_dropLineEnd? hu
  | case2 => simp at h
  | case3 s _ limit l u hl ih =>
    simp only [Option.map_eq_some_iff, Prod.mk.injEq] at h
    obtain ⟨⟨x, y⟩, hxy, -, rfl⟩ := h
    exact Nat.le_trans (ih hxy) (length_le_of_readLine? hl)
  | case4 => simp at h

end HeaderBlock

end RouteServer
