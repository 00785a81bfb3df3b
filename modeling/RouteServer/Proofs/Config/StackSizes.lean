import RouteServer.Proofs.Config.Layers

/-
  **Stack sizes** — how their texts are read, and the one way in which a stack size can be zero.

  A text is trimmed, and what is left is a numeral in one of two bases.  The mark of the hexadecimal
  base is no decimal digit, so a text is never both (`size?_eq_some_iff`), and nothing in a numeral
  is blank, so space around it is all that trimming takes (`WritesSize.not_blank`).

  The variable is read in this way and never gives zero.  A settings file is another matter: its
  number is only asked to fit.  What it says is found by following its entries one at a time
  (`addSetting?_stackSize`), and so the zero of a file is the only one that can come out.
-/

namespace RouteServer

namespace Environment

open Text.Numeral

/-- A text without space around it that writes a size. -/
inductive WritesSize : List Char → Nat → Prop
  | decimal {s n} : WritesDecimal s n → WritesSize s n
  | hexadecimal {mark : Char} {s n} : mark = 'x' ∨ mark = 'X' → WritesHexadecimal s n →
      WritesSize ('0' :: mark :: s) n

variable {s : List Char} {n : Nat}

/-! ### Two bases -/

/-- What is read of a trimmed text before zero is refused. -/
def size? : List Char → Option Nat
  | '0' :: 'x' :: r => unsigned? 16 64 r
  | '0' :: 'X' :: r => unsigned? 16 64 r
  | r => unsigned? 10 64 r

theorem stackSize?_eq (value : String) :
    stackSize? value = (size? (Text.trim value.toList)).filter (0 < ·) := rfl

/-- The mark of the hexadecimal base stands in no decimal numeral. -/
theorem writesSize_marked_iff {mark : Char} (hmark : mark = 'x' ∨ mark = 'X') :
    WritesSize ('0' :: mark :: s) n ↔ WritesHexadecimal s n := by
  constructor
  · intro h
    cases h with
    | decimal h =>
      have hdigit := h.isDigit_of_mem (List.mem_cons_of_mem _ List.mem_cons_self)
      rcases hmark with rfl | rfl <;> exact absurd hdigit (by decide)
    | hexadecimal _ h => exact h
  · exact .hexadecimal hmark

theorem size?_eq_some_iff : size? s = some n ↔ WritesSize s n ∧ n < 2 ^ 64 := by
  fun_cases size? s with
  | case1 r => rw [unsigned?_sixteen_eq_some_iff, writesSize_marked_iff (Or.inl rfl)]
  | case2 r => rw [unsigned?_sixteen_eq_some_iff, writesSize_marked_iff (Or.inr rfl)]
  | case3 s hlower hupper =>
    have hwrites : WritesSize s n ↔ WritesDecimal s n := by
      constructor
      · intro h
        cases h with
        | decimal h => exact h
        | hexadecimal hmark _ =>
          rcases hmark with rfl | rfl
          · exact absurd rfl (hlower _)
          · exact absurd rfl (hupper _)
      · exact .decimal
    rw [hwrites, unsigned?_ten_eq_some_iff]

/-- The texts that are accepted as stack sizes, and what they give. -/
theorem stackSize?_eq_some_iff {value : String} :
    stackSize? value = some n ↔ WritesSize (Text.trim value.toList) n ∧ 1 ≤ n ∧ n < 2 ^ 64 := by
  rw [stackSize?_eq, Option.filter_eq_some_iff, size?_eq_some_iff, decide_eq_true_eq, and_assoc]
  exact and_congr_right fun _ => and_comm

/-! ### Space around a size -/

theorem isBlank_of_isHexDigit {c : Char} (h : c = '+' ∨ isHexDigit c = true) :
    Text.isBlank c = false := by
  rcases h with rfl | h
  · rfl
  · have hdigits : 0x20 < '0'.toNat ∧ '9'.toNat < 0x85 := by decide
    have hletters : 0x20 < 'A'.toNat ∧ 'F'.toNat < 0x85 ∧ 0x20 < 'a'.toNat ∧ 'f'.toNat < 0x85 := by
      decide
    simp only [isHexDigit, Bool.or_eq_true, Bool.and_eq_true, decide_eq_true_eq, isDigit_iff] at h
    exact Text.isBlank_eq_false (by omega) (by omega)

theorem WritesSize.not_blank (h : WritesSize s n) : ∀ c ∈ s, Text.isBlank c = false := by
  intro c hc
  cases h with
  | decimal h =>
    apply isBlank_of_isHexDigit
    refine (h.isDigit_of_mem hc).imp_right fun hdigit => ?_
    simp [isHexDigit, hdigit]
  | hexadecimal hmark h =>
    rcases List.mem_cons.1 hc with rfl | hc
    · rfl
    · rcases List.mem_cons.1 hc with rfl | hc
      · rcases hmark with rfl | rfl <;> rfl
      · exact isBlank_of_isHexDigit (h.isHexDigit_of_mem hc)

theorem stackSize?_padded {front back : List Char} (hfront : ∀ c ∈ front, Text.isBlank c = true)
    (hback : ∀ c ∈ back, Text.isBlank c = true) (h : WritesSize s n) (hpos : 1 ≤ n)
    (hfits : n < 2 ^ 64) : stackSize? (String.ofList (front ++ (s ++ back))) = some n := by
  have htrim : Text.trim (front ++ (s ++ back)) = s :=
    Text.trimBy_append hfront hback (fun c hc => h.not_blank c (List.mem_of_mem_head? hc))
      (fun c hc => h.not_blank c (List.mem_of_getLast? hc))
  rw [stackSize?_eq_some_iff, String.toList_ofList, htrim]
  exact ⟨h, hpos, hfits⟩

/-- The ways in which a number is printed as a size: in decimal, and in hexadecimal behind `0x` with
    letters of either case. -/
def printedSizes (n : Nat) : List (List Char) :=
  [Nat.toDigits 10 n, '0' :: 'x' :: Nat.toDigits 16 n,
    '0' :: 'x' :: (Nat.toDigits 16 n).map Char.toUpper]

theorem writesSize_of_mem_printedSizes (h : s ∈ printedSizes n) : WritesSize s n := by
  simp only [printedSizes, List.mem_cons, List.not_mem_nil, or_false] at h
  obtain ⟨hlower, hupper⟩ := writesHexadecimal_toDigits n
  rcases h with rfl | rfl | rfl
  · exact .decimal (writesDecimal_toDigits n)
  · exact .hexadecimal (Or.inl rfl) hlower
  · exact .hexadecimal (Or.inl rfl) hupper

/-- A text is read as a stack size exactly when, without the space around it, it writes a number
    from 1 to 2^64 - 1 in decimal or behind `0x` in hexadecimal, and it gives that number.  Every
    such number is read back however it is printed, with any space around it. -/
theorem stackSize?_exact :
    (∀ value n, stackSize? value = some n ↔
      WritesSize (Text.trim value.toList) n ∧ 1 ≤ n ∧ n < 2 ^ 64) ∧
    (∀ n front back, 1 ≤ n → n < 2 ^ 64 → (∀ c ∈ front, Text.isBlank c = true) →
      (∀ c ∈ back, Text.isBlank c = true) →
      ∀ s ∈ printedSizes n, stackSize? (String.ofList (front ++ (s ++ back))) = some n) := by
  refine ⟨fun value n => stackSize?_eq_some_iff, ?_⟩
  intro n front back hpos hfits hfront hback s hs
  exact stackSize?_padded hfront hback (writesSize_of_mem_printedSizes hs) hpos hfits

/-- Leading zeros, a sign and letters of both cases; and the greatest number that is accepted. -/
theorem stackSize?_exact_mixed :
    stackSize? "\u3000 0X+00fF\n" = some 255 ∧
    stackSize? "\t18446744073709551615\u2029" = some (2 ^ 64 - 1) := by
  obtain ⟨hread, hprinted⟩ := stackSize?_exact
  constructor
  · have htrim : Text.trim "\u3000 0X+00fF\n".toList = ['0', 'X', '+', '0', '0', 'f', 'F'] := by
      decide +kernel
    have hdigits : WritesHexadecimal ['+', '0', '0', 'f', 'F'] 255 :=
      ⟨['0', '0', 'f', 'F'], Or.inr rfl, by decide, List.all_eq_true.1 (by decide),
        by decide +kernel⟩
    refine (hread _ _).2 ⟨?_, by decide, by decide⟩
    rw [htrim]
    exact .hexadecimal (Or.inr rfl) hdigits
  · have hpadded := hprinted (2 ^ 64 - 1) ['\t'] [Char.ofNat 0x2029] (by decide) (by decide)
      (List.all_eq_true.1 (by decide)) (List.all_eq_true.1 (by decide)) _ List.mem_cons_self
    have htext : String.ofList (['\t'] ++ (Nat.toDigits 10 (2 ^ 64 - 1) ++ [Char.ofNat 0x2029])) =
        "\t18446744073709551615\u2029" := by
      decide +kernel
    rwa [htext] at hpadded

end Environment

/-! ### What a settings file says -/

namespace SettingsFile

variable {l l' : SettingsLayer} {n : Nat}

theorem setOnce?_eq_some {α : Type} {old new v : Option α} (h : setOnce? old new = some v) :
    old = none ∧ v = new := by
  unfold setOnce? at h
  split at h
  · exact ⟨rfl, (Option.some.inj h).symm⟩
  · cases h

theorem stackSize_of_key {key value : Yaml.Scalar} (hkey : key.string = "stack_size")
    (h : addSetting? l key value = some l') :
    l.stackSize = none ∧ l'.stackSize = value.nat? 64 := by
  simp only [addSetting?, hkey, Option.map_eq_some_iff] at h
  obtain ⟨v, hv, rfl⟩ := h
  exact setOnce?_eq_some hv

theorem stackSize_of_other_key {key value : Yaml.Scalar} (hkey : key.string ≠ "stack_size")
    (h : addSetting? l key value = some l') : l'.stackSize = l.stackSize := by
  rw [addSetting?] at h
  split at h
  case h_5 hthis => exact absurd hthis hkey
  case h_6 => cases h
  all_goals
    obtain ⟨v, -, rfl⟩ := Option.map_eq_some_iff.1 h
    rfl

/-- A step: an entry with the key adds its number, and no other entry touches the stack size. -/
theorem addSetting?_stackSize {key value : Yaml.Scalar} (h : addSetting? l key value = some l') :
    l'.stackSize = some n ↔
      l.stackSize = some n ∨ (key.string = "stack_size" ∧ value.nat? 64 = some n) := by
  by_cases hkey : key.string = "stack_size"
  · obtain ⟨hold, hnew⟩ := stackSize_of_key hkey h
    simp [hold, hnew, hkey]
  · simp [stackSize_of_other_key hkey h, hkey]

/-- The run: a stack size that is there at the end was there before or comes from an entry. -/
theorem addSettings?_stackSize {entries : List (Yaml.Scalar × Yaml.Scalar)}
    (h : addSettings? l entries = some l') :
    l'.stackSize = some n ↔
      l.stackSize = some n ∨
        ∃ e ∈ entries, e.1.string = "stack_size" ∧ e.2.nat? 64 = some n := by
  induction entries generalizing l with
  | nil =>
    cases h
    simp
  | cons e entries ih =>
    obtain ⟨key, value⟩ := e
    rw [addSettings?] at h
    split at h
    · rename_i l₁ hstep
      rw [ih h, addSetting?_stackSize hstep, or_assoc]
      simp
    · cases h

/-- The file that is asked for holds a text with an entry that gives the stack size as `n`. -/
def GivesStackSize (files : FileTree) (path : Option String) (n : Nat) : Prop :=
  ∃ name bytes text entries, path = some name ∧ files.read name = .ok bytes ∧
    Text.Utf8.decode? bytes = some text ∧ Yaml.entries? text = some entries ∧
    ∃ e ∈ entries, e.1.string = "stack_size" ∧ e.2.nat? 64 = some n

theorem ofText_eq_ok_iff {text : List Char} :
    ofText text = .ok l ↔
      ∃ entries, Yaml.entries? text = some entries ∧ addSettings? .empty entries = some l := by
  rw [ofText]
  cases hread : (Yaml.entries? text).bind (addSettings? .empty) with
  | none =>
    simp only [reduceCtorEq, false_iff, not_exists]
    rintro entries ⟨hentries, hadded⟩
    simp [hentries, hadded] at hread
  | some l' =>
    obtain ⟨entries, hentries, hadded⟩ := Option.bind_eq_some_iff.1 hread
    simp [hentries, hadded]

theorem load_eq_ok_iff {files : FileTree} {name : String} :
    load files name = .ok l ↔
      ∃ bytes text, files.read name = .ok bytes ∧ Text.Utf8.decode? bytes = some text ∧
        ofText text = .ok l := by
  rw [load]
  cases files.read name with
  | error e => simp
  | ok bytes =>
    cases hdecode : Text.Utf8.decode? bytes with
    | none => simp [hdecode]
    | some text => simp [hdecode]

theorem layer_stackSize {files : FileTree} {path : Option String}
    (h : layer files path = .ok l) : l.stackSize = some n ↔ GivesStackSize files path n := by
  cases path with
  | none =>
    cases h
    simp [GivesStackSize, SettingsLayer.empty]
  | some name =>
    obtain ⟨bytes, text, hread, hdecode, htext⟩ := load_eq_ok_iff.1 h
    obtain ⟨entries, hentries, hadded⟩ := ofText_eq_ok_iff.1 htext
    rw [addSettings?_stackSize hadded]
    simp [GivesStackSize, SettingsLayer.empty, hread, hdecode, hentries]

end SettingsFile

/-! ### Loaded settings -/

namespace Settings

variable {files : FileTree} {path : Option String} {env : Environment} {s : Settings}

/-- The stack size is the one of the variable, or that of the file, or the standard one. -/
theorem load_stackSize (h : load files path env = .ok s) :
    ∃ file size, SettingsFile.layer files path = .ok file ∧
      env.Gives "TERRIER_STACK_SIZE" Environment.WritesStackSize size ∧
      s.stackSize = (size.or file.stackSize).getD standard.stackSize := by
  cases hfile : SettingsFile.layer files path with
  | error e => cases (load_of_layer_error hfile).symm.trans h
  | ok file =>
    rw [load_of_layer hfile] at h
    cases hl : env.settings with
    | error e =>
      rw [hl] at h
      cases h
    | ok l =>
      rw [hl] at h
      cases h
      obtain ⟨port, size, -, hsize, rfl⟩ := Environment.settings_eq_ok_iff.1 hl
      refine ⟨file, size, rfl, hsize, ?_⟩
      rw [override_stackSize, override_stackSize, Option.getD_or]
      rfl

/-- Settings that are loaded have a stack size above zero, unless the file gives zero and the
    variable is not set. -/
theorem load_stackSize_pos_iff (files : FileTree) (path : Option String) (env : Environment)
    (s : Settings) (h : load files path env = .ok s) :
    0 < s.stackSize ↔
      ¬ (env "TERRIER_STACK_SIZE" = none ∧ SettingsFile.GivesStackSize files path 0) := by
  obtain ⟨file, size, hfile, hsize, hs⟩ := load_stackSize h
  rw [hs, ← SettingsFile.layer_stackSize hfile]
  cases size with
  | some n =>
    obtain ⟨value, hset, hvalue⟩ := hsize
    obtain ⟨-, hpos, -⟩ := Environment.stackSize?_eq_some_iff.1 hvalue
    have hnot : ¬ (env "TERRIER_STACK_SIZE" = none ∧ file.stackSize = some 0) := by
      rintro ⟨hunset, -⟩
      cases hset.symm.trans hunset
    exact iff_of_true hpos hnot
  | none =>
    have hunset : env "TERRIER_STACK_SIZE" = none := hsize
    cases hgiven : file.stackSize with
    | none => simp [standard]
    | some n => simp [hunset, Nat.pos_iff_ne_zero]

def zeroFiles : FileTree := .ofFiles [("site.yaml", Text.Utf8.encodeString "stack_size: 0\n")]

/-- A variable that is set covers the zero of the file. -/
theorem load_stackSize_pos_iff_covered :
    ∃ s, load zeroFiles (some "site.yaml") (.ofList [("TERRIER_STACK_SIZE", " 0x4000")]) = .ok s ∧
      0 < s.stackSize := by
  have hload : load zeroFiles (some "site.yaml") (.ofList [("TERRIER_STACK_SIZE", " 0x4000")]) =
      .ok { standard with stackSize := 0x4000 } := by
    decide +kernel
  refine ⟨_, hload, (load_stackSize_pos_iff _ _ _ _ hload).2 ?_⟩
  rintro ⟨hunset, -⟩
  exact absurd hunset (by decide +kernel)

/-- Without the variable the zero of the file is the stack size. -/
theorem load_stackSize_zero :
    ¬ ∀ s, load zeroFiles (some "site.yaml") (.ofList []) = .ok s → 0 < s.stackSize := by
  intro h
  have hload : load zeroFiles (some "site.yaml") (.ofList []) =
      .ok { standard with stackSize := 0 } := by
    decide +kernel
  exact absurd (h _ hload) (by decide)

end Settings

end RouteServer
