import RouteServer.Proofs.Http.Forms

/-
  **Forms that are cut off** — what is read of a body does not depend on what comes behind it.

  Each reader decides from the bytes that it takes.  A run of bytes of a class is over when a byte
  of another class stands behind it, a line is over at its line break, a block at its empty line and
  a content at the first delimiter.  So a part that was read is read again when the body goes on,
  and leaves the rest with the new bytes behind it (`readPart?_append_right`).  By induction along
  the parts, the fields of a body are the first fields of every longer one.

  A run of the reader is a chain of cuts: `Reads` says which bytes are the head, the content and the
  delimiter of each part, and where the reader stops.
-/

namespace RouteServer

namespace HeaderBlock

variable {p : UInt8 → Bool} {s r : List UInt8} {b : UInt8} {l : Header} {ls : List Header}
  {limit : Nat}

/-! ### Lines -/

theorem eq_false_of_dropWhile_eq_cons (h : s.dropWhile p = b :: r) : p b = false := by
  have hnot := List.head?_dropWhile_not p s
  rw [h] at hnot
  simpa using hnot

/-- A run that is over stays as it is when bytes are added. -/
theorem takeWhile_append_right (h : s.dropWhile p = b :: r) (z : List UInt8) :
    (s ++ z).takeWhile p = s.takeWhile p := by
  have hs : s ++ z = s.takeWhile p ++ b :: (r ++ z) := by
    rw [← List.cons_append, ← h, ← List.append_assoc, List.takeWhile_append_dropWhile]
  rw [hs, takeWhile_run (List.all_eq_true.1 List.all_takeWhile) (eq_false_of_dropWhile_eq_cons h)]

theorem dropWhile_append_right (h : s.dropWhile p = b :: r) (z : List UInt8) :
    (s ++ z).dropWhile p = b :: (r ++ z) := by
  rw [List.dropWhile_append, h]
  rfl

theorem exists_eq_cons_of_dropLineEnd? (h : dropLineEnd? s = some r) : ∃ b t, s = b :: t := by
  cases s with
  | nil => cases h
  | cons b t => exact ⟨b, t, rfl⟩

theorem dropLineEnd?_append_right (h : dropLineEnd? s = some r) (z : List UInt8) :
    dropLineEnd? (s ++ z) = some (r ++ z) := by
  unfold dropLineEnd? at h
  split at h
  · cases h
    rfl
  · cases h
    rfl
  · cases h

theorem suffix_of_dropLineEnd? (h : dropLineEnd? s = some r) : r <:+ s := by
  unfold dropLineEnd? at h
  split at h
  · cases h
    exact ⟨[0x0A], rfl⟩
  · cases h
    exact ⟨[0x0D, 0x0A], rfl⟩
  · cases h

/-- What a line is read from: a name that is not empty, a colon, and a text up to a line break. -/
theorem readLine?_eq_some_iff :
    readLine? s = some (l, r) ↔
      s.takeWhile isNameByte ≠ [] ∧ ∃ t, s.dropWhile isNameByte = 0x3A :: t ∧
        l = ⟨asciiText (s.takeWhile isNameByte),
          (((t.dropWhile isPadding).takeWhile isValueByte).reverse.dropWhile isPadding).reverse⟩ ∧
        dropLineEnd? ((t.dropWhile isPadding).dropWhile isValueByte) = some r := by
  rw [readLine?]
  simp only [List.isEmpty_iff]
  split
  · rename_i hempty
    simp [hempty]
  · rename_i hname
    split
    · rename_i t ht
      rw [Option.map_eq_some_iff]
      constructor
      · rintro ⟨u, hu, heq⟩
        obtain ⟨rfl, rfl⟩ := Prod.mk.inj heq
        exact ⟨hname, t, ht, rfl, hu⟩
      · rintro ⟨-, t', ht', rfl, hr⟩
        obtain ⟨-, rfl⟩ := List.cons.inj (ht.symm.trans ht')
        exact ⟨r, hr, rfl⟩
    · rename_i hcolon
      constructor
      · intro h
        cases h
      · rintro ⟨-, t, ht, -⟩
        exact absurd ht (hcolon t)

theorem readLine?_append_right (h : readLine? s = some (l, r)) (z : List UInt8) :
    readLine? (s ++ z) = some (l, r ++ z) := by
  obtain ⟨hname, t, ht, rfl, hend⟩ := readLine?_eq_some_iff.1 h
  obtain ⟨b, u, hu⟩ := exists_eq_cons_of_dropLineEnd? hend
  -- the line break stops the run of the value, and so the padding has stopped before
  obtain ⟨c, v, hv⟩ : ∃ c v, t.dropWhile isPadding = c :: v := by
    cases hpadding : t.dropWhile isPadding with
    | nil =>
      rw [hpadding] at hu
      cases hu
    | cons c v => exact ⟨c, v, rfl⟩
  have hvalue := dropWhile_append_right hv z
  rw [← List.cons_append, ← hv] at hvalue
  have hrest := dropWhile_append_right hu z
  rw [← List.cons_append, ← hu] at hrest
  refine readLine?_eq_some_iff.2 ⟨?_, t ++ z, ?_, ?_, ?_⟩
  · rwa [takeWhile_append_right ht]
  · rw [dropWhile_append_right ht]
  · rw [takeWhile_append_right ht, hvalue, takeWhile_append_right hu]
  · rw [hvalue, hrest]
    exact dropLineEnd?_append_right hend z

theorem suffix_of_readLine? (h : readLine? s = some (l, r)) : r <:+ s := by
  obtain ⟨-, t, ht, -, hend⟩ := readLine?_eq_some_iff.1 h
  have hcolon : t <:+ s := by
    apply List.IsSuffix.trans _ (List.dropWhile_suffix isNameByte)
    rw [ht]
    exact List.suffix_cons 0x3A t
  have hvalue := (suffix_of_dropLineEnd? hend).trans (List.dropWhile_suffix isValueByte)
  exact (hvalue.trans (List.dropWhile_suffix isPadding)).trans hcolon

/-! ### Blocks -/

/-- A line begins with a byte of its name, which is no line break. -/
theorem dropLineEnd?_of_readLine? (h : readLine? s = some (l, r)) (z : List UInt8) :
    dropLineEnd? (s ++ z) = none := by
  obtain ⟨hname, -⟩ := readLine?_eq_some_iff.1 h
  cases s with
  | nil => exact absurd rfl hname
  | cons b t =>
    apply dropLineEnd?_of_isNameByte
    by_contra hb
    exact hname (List.takeWhile_cons_of_neg hb)

theorem readLines?_append_right (h : readLines? limit s = some (ls, r)) (z : List UInt8) :
    readLines? limit (s ++ z) = some (ls, r ++ z) := by
  fun_induction readLines? limit s generalizing ls with
  | case1 limit s u hend =>
    obtain ⟨rfl, rfl⟩ := Prod.mk.inj (Option.some.inj h)
    unfold readLines?
    rw [dropLineEnd?_append_right hend]
  | case2 => cases h
  | case3 s _ limit l u hline ih =>
    obtain ⟨⟨more, rest⟩, hmore, heq⟩ := Option.map_eq_some_iff.1 h
    obtain ⟨rfl, rfl⟩ := Prod.mk.inj heq
    rw [readLines?, dropLineEnd?_of_readLine? hline, readLine?_append_right hline]
    simp only [ih hmore, Option.map_some]
  | case4 => cases h

theorem suffix_of_readLines? (h : readLines? limit s = some (ls, r)) : r <:+ s := by
  fun_induction readLines? limit s generalizing ls with
  | case1 limit s u hend =>
    obtain ⟨-, rfl⟩ := Prod.mk.inj (Option.some.inj h)
    exact suffix_of_dropLineEnd? hend
  | case2 => cases h
  | case3 s _ limit l u hline ih =>
    obtain ⟨⟨more, rest⟩, hmore, heq⟩ := Option.map_eq_some_iff.1 h
    obtain ⟨-, rfl⟩ := Prod.mk.inj heq
    exact (ih hmore).trans (suffix_of_readLine? hline)
  | case4 => cases h

end HeaderBlock

namespace Multipart

open Text.Utf8 (encodeString encodeString_append)

variable {delimiter s r content : List UInt8} {headers : List Header} {boundary : String}
  {fields : List (String × String)}

/-! ### Parts -/

theorem readPart?_eq_some_iff :
    readPart? delimiter s = some ((headers, content), r) ↔
      ∃ t u, s = 0x0D :: 0x0A :: t ∧ HeaderBlock.read? t = some (headers, u) ∧
        Text.findFirst delimiter u = some (content, r) := by
  unfold readPart?
  split
  · rename_i t
    cases hblock : HeaderBlock.read? t with
    | none => simp [hblock]
    | some block =>
      obtain ⟨hs, u⟩ := block
      simp only [Option.map_eq_some_iff]
      constructor
      · rintro ⟨⟨x, y⟩, hxy, heq⟩
        cases heq
        exact ⟨t, u, rfl, hblock, hxy⟩
      · rintro ⟨t', u', ht, hu, hfound⟩
        cases ht
        cases hblock.symm.trans hu
        exact ⟨(content, r), hfound, rfl⟩
  · rename_i hbreak
    constructor
    · intro h
      cases h
    · rintro ⟨t, u, rfl, -⟩
      exact absurd rfl (hbreak t)

/-- A part that was read is read again when more bytes come, and leaves them behind the rest. -/
theorem readPart?_append_right (h : readPart? delimiter s = some ((headers, content), r))
    (z : List UInt8) : readPart? delimiter (s ++ z) = some ((headers, content), r ++ z) := by
  obtain ⟨t, u, rfl, hblock, hcontent⟩ := readPart?_eq_some_iff.1 h
  exact readPart?_eq_some_iff.2 ⟨t ++ z, u ++ z, rfl,
    HeaderBlock.readLines?_append_right hblock z, Text.findFirst_append_right hcontent z⟩

/-- A part is cut out of the bytes that it is read from. -/
theorem exists_eq_of_readPart? (h : readPart? delimiter s = some ((headers, content), r)) :
    ∃ head, s = head ++ (content ++ (delimiter ++ r)) := by
  obtain ⟨t, u, rfl, hblock, hcontent⟩ := readPart?_eq_some_iff.1 h
  obtain ⟨block, rfl⟩ := HeaderBlock.suffix_of_readLines? hblock
  rw [Text.findFirst_eq_some hcontent, List.append_assoc]
  exact ⟨0x0D :: 0x0A :: block, rfl⟩

/-! ### Runs -/

/-- A run of the reader behind a delimiter, with the fields that it collects.  Each step takes a
    head, a content and the delimiter behind it off the bytes, and the last one finds no part. -/
inductive Reads (delimiter : List UInt8) : List UInt8 → List (String × String) → Prop
  | stop {s : List UInt8} : readPart? delimiter s = none → Reads delimiter s []
  | part {head content r : List UInt8} {headers : List Header} {fields : List (String × String)} :
      readPart? delimiter (head ++ (content ++ (delimiter ++ r))) = some ((headers, content), r) →
      Reads delimiter r fields →
      Reads delimiter (head ++ (content ++ (delimiter ++ r)))
        ((field? headers content).toList ++ fields)

theorem reads_fieldsBehind (delimiter s : List UInt8) :
    Reads delimiter s (fieldsBehind delimiter s) := by
  fun_induction fieldsBehind delimiter s with
  | case1 s hnone => exact .stop hnone
  | case2 s headers content r hread ih =>
    obtain ⟨head, rfl⟩ := exists_eq_of_readPart? hread
    exact .part hread ih

theorem Reads.fieldsBehind_append (h : Reads delimiter s fields) (z : List UInt8) :
    fields <+: fieldsBehind delimiter (s ++ z) := by
  induction h with
  | stop _ => exact List.nil_prefix
  | part hread _ ih =>
    rw [fieldsBehind_of_readPart? (readPart?_append_right hread z)]
    exact (List.prefix_append_right_inj _).2 ih

/-! ### Whole bodies -/

theorem decodeList_prefix_append (boundary : String) (s z : List UInt8) :
    decodeList boundary s <+: decodeList boundary (s ++ z) := by
  cases hfirst : Text.findFirst (0x2D :: 0x2D :: encodeString boundary) s with
  | none =>
    simp only [decodeList, hfirst]
    exact List.nil_prefix
  | some found =>
    obtain ⟨front, r⟩ := found
    simp only [decodeList, hfirst, Text.findFirst_append_right hfirst z]
    exact (reads_fieldsBehind _ r).fieldsBehind_append z

/-- **Bytes that come later change no field.**  The fields of a body are the first fields of every
    body that goes on from it, so no name is lost from the form.  And a body is read by cuts that
    lie within it: without a delimiter it has no field, and else the reader takes part after part
    off the bytes behind the first one, until the bytes that are left begin with none. -/
theorem decodeList_append (boundary : String) (s z : List UInt8) :
    decodeList boundary s <+: decodeList boundary (s ++ z) ∧
    (decode boundary s).entries.map (·.1) ⊆ (decode boundary (s ++ z)).entries.map (·.1) ∧
    (¬ encodeString ("--" ++ boundary) <:+: s ∧ decodeList boundary s = [] ∨
      ∃ front r, s = front ++ (encodeString ("--" ++ boundary) ++ r) ∧
        Reads (closing boundary) r (decodeList boundary s)) := by
  have hshort := decodeList_prefix_append boundary s z
  refine ⟨hshort, ?_, ?_⟩
  · intro name hname
    rw [decode, Fields.mem_names_ofList] at hname ⊢
    exact (hshort.map _).subset hname
  · have hdelimiter : encodeString ("--" ++ boundary) = 0x2D :: 0x2D :: encodeString boundary := by
      rw [encodeString_append]
      rfl
    rw [hdelimiter]
    cases hfirst : Text.findFirst (0x2D :: 0x2D :: encodeString boundary) s with
    | none =>
      refine Or.inl ⟨Text.not_infix_of_findFirst_eq_none hfirst, ?_⟩
      simp only [decodeList, hfirst]
    | some found =>
      obtain ⟨front, r⟩ := found
      refine Or.inr ⟨front, r, ?_, ?_⟩
      · rw [Text.findFirst_eq_some hfirst, List.append_assoc]
      · simp only [decodeList, hfirst]
        exact reads_fieldsBehind _ r

end Multipart

end RouteServer
