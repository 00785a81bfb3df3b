import RouteServer.Proofs.Http.Forms

/-
  **Names of form fields** — which names in quotes a part can give its field.

  A disposition is cut at every semicolon before its quotes are looked at.  So a name is taken from
  one piece of the disposition, and no name that is read holds a semicolon
  (`semicolon_not_mem_of_mem_decodeList`).  Every other printable text without quotes is taken
  whole, with its spaces, equals signs and words that look like parameters.
-/

namespace RouteServer.Multipart

open Text.Utf8 (encodeString)

variable {s key value : List Char} {n : String} {params : List (List Char × List Char)}
  {d : Disposition}

/-! ### Names that are read -/

/-- The characters of a value come from the piece that it is read from. -/
theorem mem_of_readParam? (h : readParam? s = some (key, value)) : ∀ c ∈ value, c ∈ s := by
  intro c hc
  obtain ⟨⟨front, back⟩, hsplit, hpair⟩ := Option.map_eq_some_iff.1 h
  obtain ⟨-, rfl⟩ := Prod.mk.inj hpair
  obtain ⟨heq, -⟩ := Text.splitFirst_eq_some hsplit
  have hback : c ∈ back := Text.mem_of_mem_trimBy (Text.mem_of_mem_trimBy hc)
  have htrim : c ∈ Text.trim s := by
    rw [heq]
    exact List.mem_append_right _ (List.mem_cons_of_mem _ hback)
  exact Text.mem_of_mem_trimBy htrim

theorem Disposition.name_add (d : Disposition) (p : List Char × List Char) :
    (d.add p).name = some (String.ofList p.2) ∨ (d.add p).name = d.name := by
  rw [add]
  split
  · exact Or.inl rfl
  · split
    · exact Or.inr rfl
    · exact Or.inr rfl

theorem exists_mem_of_name_foldl_add (h : (params.foldl .add d).name = some n) :
    d.name = some n ∨ ∃ p ∈ params, String.ofList p.2 = n := by
  induction params generalizing d with
  | nil => exact Or.inl h
  | cons p params ih =>
    rcases ih h with hname | ⟨q, hq, hn⟩
    · rcases d.name_add p with hadd | hadd
      · rw [hadd] at hname
        exact Or.inr ⟨p, List.mem_cons_self, Option.some.inj hname⟩
      · rw [hadd] at hname
        exact Or.inl hname
    · exact Or.inr ⟨q, List.mem_cons_of_mem p hq, hn⟩

theorem semicolon_not_mem_of_name_ofText (h : (Disposition.ofText s).name = some n) :
    ';' ∉ n.toList := by
  rcases exists_mem_of_name_foldl_add h with hnone | ⟨⟨key, value⟩, hp, rfl⟩
  · cases hnone
  · obtain ⟨piece, hpiece, hread⟩ := List.mem_filterMap.1 hp
    have hsplit : ';' ∉ piece := Text.not_mem_of_mem_splitOn (List.mem_of_mem_drop hpiece)
    rw [String.toList_ofList]
    intro hmem
    exact hsplit (mem_of_readParam? hread ';' hmem)

theorem semicolon_not_mem_of_field? {headers : List Header} {content : List UInt8} {v : String}
    (h : field? headers content = some (n, v)) : ';' ∉ n.toList := by
  rw [field?] at h
  split at h
  · rename_i name hdisposition
    obtain ⟨rfl, -⟩ := Prod.mk.inj (Option.some.inj h)
    rw [disposition?] at hdisposition
    split at hdisposition
    · rename_i header _
      obtain ⟨text, -, htext⟩ := Option.map_eq_some_iff.1 hdisposition
      apply semicolon_not_mem_of_name_ofText (s := text)
      rw [htext]
    · cases hdisposition
  · cases h

/-- No field of a form has a name with a semicolon. -/
theorem semicolon_not_mem_of_mem_decodeList {boundary : String} {body : List UInt8}
    {f : String × String} (h : f ∈ decodeList boundary body) : ';' ∉ f.1.toList := by
  have hbehind : ∀ closing rest, f ∈ fieldsBehind closing rest → ';' ∉ f.1.toList := by
    intro closing rest hf
    fun_induction fieldsBehind closing rest with
    | case1 => cases hf
    | case2 rest headers content r hread ih =>
      rcases List.mem_append.1 hf with hfield | hmore
      · exact semicolon_not_mem_of_field? (Option.mem_toList.1 hfield)
      · exact ih hmore
  rw [decodeList] at h
  split at h
  · exact hbehind _ _ h
  · cases h

/-! ### Names that are sent -/

variable {boundary name text : String} {before after : List Part}

theorem read?_textPart_iff (hname : Printable name) (hquote : '"' ∉ name.toList) :
    Part.read? ⟨name, .text text, []⟩ = some (name, text) ↔ ';' ∉ name.toList := by
  constructor
  · exact semicolon_not_mem_of_field?
  · intro hsemicolon
    have hplain : Plain name := by
      intro c hc
      refine ⟨hname c hc, ?_, ?_⟩
      · rintro rfl
        exact hquote hc
      · rintro rfl
        exact hsemicolon hc
    have hdisposition : Disposition.ofText (fieldDisposition name).toList = ⟨some name, false⟩ :=
      ofText_fieldDisposition hplain
    rw [Part.read?, field?, Part.disposition?_lines, Part.disposition, hdisposition]
    simp only [Content.bytes, Text.Utf8.decodeLossyString_encodeString]

theorem framed_textPart (hname : Printable name)
    (hends : ¬ closing boundary <:+: (encodeString text ++ closing boundary).dropLast) :
    Part.Framed boundary ⟨name, .text text, []⟩ := by
  refine ⟨Part.wellFormed_lines (printable_fieldDisposition hname) ?_, ?_, hends⟩
  · intro l hl
    cases hl
  · exact Nat.succ_le_succ (Nat.zero_le _)

/-- **A name in quotes is taken whole unless it holds a semicolon.**  Among any parts that are taken
    off whole, a text part with a printable name without quotes adds its field, in its place and
    under its name, exactly when the name has no semicolon. -/
theorem decodeList_textPart_iff (hothers : ∀ p ∈ before ++ after, p.Framed boundary)
    (hname : Printable name) (hquote : '"' ∉ name.toList)
    (hends : ¬ closing boundary <:+: (encodeString text ++ closing boundary).dropLast) :
    decodeList boundary (body boundary (before ++ ⟨name, .text text, []⟩ :: after)) =
        decodeList boundary (body boundary before) ++
          (name, text) :: decodeList boundary (body boundary after) ↔
      ';' ∉ name.toList := by
  have hbefore : ∀ p ∈ before, p.Framed boundary := fun p hp =>
    hothers p (List.mem_append_left _ hp)
  have hafter : ∀ p ∈ after, p.Framed boundary := fun p hp =>
    hothers p (List.mem_append_right _ hp)
  have hall : ∀ p ∈ before ++ ⟨name, .text text, []⟩ :: after, p.Framed boundary := by
    intro p hp
    rw [List.mem_append, List.mem_cons] at hp
    rcases hp with hp | rfl | hp
    · exact hbefore p hp
    · exact framed_textPart hname hends
    · exact hafter p hp
  rw [decodeList_framed hall, decodeList_framed hbefore, decodeList_framed hafter,
    List.filterMap_append, List.append_cancel_left_eq, ← read?_textPart_iff hname hquote]
  cases hread : Part.read? ⟨name, .text text, []⟩ with
  | none =>
    rw [List.filterMap_cons_none hread]
    simp
  | some f =>
    rw [List.filterMap_cons_some hread]
    simp

theorem decodeList_textPart_iff_spaced :
    (∀ p ∈ [⟨"x", .file "f" [0xFF], []⟩] ++ ([] : List Part), p.Framed "b") ∧
      Printable " filename=\\ü " ∧ '"' ∉ " filename=\\ü ".toList ∧
      ¬ closing "b" <:+: (encodeString "--b\r\n" ++ closing "b").dropLast ∧
      decodeList "b" (body "b"
          ([⟨"x", .file "f" [0xFF], []⟩] ++ ⟨" filename=\\ü ", .text "--b\r\n", []⟩ :: [])) =
        decodeList "b" (body "b" [⟨"x", .file "f" [0xFF], []⟩]) ++
          (" filename=\\ü ", "--b\r\n") :: decodeList "b" (body "b" []) := by
  have hfile : Part.Framed "b" ⟨"x", .file "f" [0xFF], []⟩ :=
    ⟨Part.wellFormed_lines (by decide +kernel) (by simp), by decide, by decide +kernel⟩
  have hname : Printable " filename=\\ü " := by decide +kernel
  have hquote : '"' ∉ " filename=\\ü ".toList := by decide +kernel
  have hends : ¬ closing "b" <:+: (encodeString "--b\r\n" ++ closing "b").dropLast := by
    decide +kernel
  have hothers : ∀ p ∈ [⟨"x", .file "f" [0xFF], []⟩] ++ ([] : List Part), p.Framed "b" :=
    List.forall_mem_singleton.2 hfile
  refine ⟨hothers, hname, hquote, hends, ?_⟩
  exact (decodeList_textPart_iff hothers hname hquote hends).2 (by decide +kernel)

/-- A name with a semicolon is cut there, and with the word `filename` behind it the part counts as
    a file. -/
theorem decodeList_textPart_semicolon :
    decodeList "b" (body "b" [⟨"a;b", .text "v", []⟩]) = [("a", "v")] ∧
      decodeList "b" (body "b" [⟨"a; filename=b", .text "v", []⟩]) = [] := by
  constructor
  · decide +kernel
  · decide +kernel

end RouteServer.Multipart
