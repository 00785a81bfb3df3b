import Mathlib.Data.List.ReduceOption
import RouteServer.Http.Cookie
import RouteServer.Proofs.Http.Fields
import RouteServer.Proofs.Http.Parameters

/-
  **Cookies there and back** — a `cookie` header is read as the cookies that were written into it.

  A header is written piece by piece, and `Writes` lists the ways to write one: a name and a value,
  a name alone, or a piece that stands for no cookie.  Padding may stand around every part.  The
  reader trims a piece before it cuts it and the halves behind that, which comes to the same as
  trimming the halves alone (`readPair?_append`).  So a piece is read as what it was written for,
  and there is no piece without a semicolon that is not written in one of these ways
  (`writes_readPair?`).
-/

namespace RouteServer.Cookie

open Multipart (KeepsEnds keepsEnds_trimBy)
open Text (isBlank trim)

/-! ### Ways to write a piece -/

/-- A run of padding. -/
def Blank (s : List Char) : Prop := ∀ c ∈ s, isBlank c = true

instance (s : List Char) : Decidable (Blank s) := List.decidableBAll _ _

/-- A text with padding around it. -/
def Padded (text : String) (s : List Char) : Prop :=
  ∃ front back, Blank front ∧ Blank back ∧ s = front ++ (text.toList ++ back)

/-- A name that a cookie can be sent with. -/
structure ValidName (name : String) : Prop where
  nonempty : name ≠ ""
  no_semicolon : ';' ∉ name.toList
  no_equals : '=' ∉ name.toList
  ends : KeepsEnds isBlank name.toList

/-- A value that a cookie can be sent with.  It may be empty, and may hold equals signs. -/
structure ValidValue (value : String) : Prop where
  no_semicolon : ';' ∉ value.toList
  ends : KeepsEnds isBlank value.toList

/-- The cookie that a piece is written for, if any. -/
inductive Writes : Option (String × String) → List Char → Prop
  | pair {name value : String} {n v : List Char} :
      ValidName name → ValidValue value → Padded name n → Padded value v →
      Writes (some (name, value)) (n ++ '=' :: v)
  | bare {name : String} {n : List Char} :
      ValidName name → Padded name n → Writes (some (name, "")) n
  | blank {s : List Char} : Blank s → Writes none s
  -- whatever stands behind a blank name, it is no value
  | nameless {n v : List Char} : Blank n → ';' ∉ v → Writes none (n ++ '=' :: v)

/-- A header whose pieces are written for some cookies and for nothing else. -/
def Carries (header : String) (cookies : List (String × String)) : Prop :=
  ∃ entries pieces, List.Forall₂ Writes entries pieces ∧ entries.reduceOption = cookies ∧
    header.toList = [';'].intercalate pieces

variable {name value text header : String} {c : Char} {n v s : List Char}
  {entry : Option (String × String)} {cookies : List (String × String)}

theorem Blank.not_mem (h : Blank s) (hc : isBlank c = false) : c ∉ s := by
  intro hmem
  rw [h c hmem] at hc
  cases hc

theorem Blank.trim_eq (h : Blank s) : trim s = [] := Text.trim_eq_nil_iff.2 h

theorem Padded.not_mem (h : Padded text s) (hc : isBlank c = false) (htext : c ∉ text.toList) :
    c ∉ s := by
  obtain ⟨front, back, hfront, hback, rfl⟩ := h
  simp only [List.mem_append, not_or]
  exact ⟨hfront.not_mem hc, htext, hback.not_mem hc⟩

theorem Padded.trim_eq (h : Padded text s) (hends : KeepsEnds isBlank text.toList) :
    trim s = text.toList := by
  obtain ⟨front, back, hfront, hback, rfl⟩ := h
  exact Text.trimBy_append hfront hback hends.1 hends.2

/-- Every text is padded around what trimming leaves of it. -/
theorem padded_trim (s : List Char) : Padded (String.ofList (trim s)) s := by
  obtain ⟨front, back, hfront, hback, hs⟩ := Text.exists_eq_padded_trimBy isBlank s
  refine ⟨front, back, hfront, hback, ?_⟩
  rw [String.toList_ofList]
  exact hs

theorem ValidName.trim_ne_nil (h : ValidName name) (hpadded : Padded name s) : trim s ≠ [] := by
  rw [hpadded.trim_eq h.ends]
  intro hempty
  exact h.nonempty (String.toList_eq_nil_iff.1 hempty)

theorem validName_trim (hsemicolon : ';' ∉ s) (hequals : '=' ∉ s) (hsome : trim s ≠ []) :
    ValidName (String.ofList (trim s)) where
  nonempty := fun hempty => hsome (by simpa using congrArg String.toList hempty)
  no_semicolon := fun h => hsemicolon (Text.mem_of_mem_trimBy (String.toList_ofList ▸ h))
  no_equals := fun h => hequals (Text.mem_of_mem_trimBy (String.toList_ofList ▸ h))
  ends := by
    rw [String.toList_ofList]
    exact keepsEnds_trimBy isBlank s

theorem validValue_trim (hsemicolon : ';' ∉ s) : ValidValue (String.ofList (trim s)) where
  no_semicolon := fun h => hsemicolon (Text.mem_of_mem_trimBy (String.toList_ofList ▸ h))
  ends := by
    rw [String.toList_ofList]
    exact keepsEnds_trimBy isBlank s

/-! ### One piece -/

/-- A piece is cut at its first equals sign, and only the halves need to be trimmed. -/
theorem readPair?_append (h : '=' ∉ n) (v : List Char) :
    readPair? (n ++ '=' :: v) =
      if trim n = [] then none else some (String.ofList (trim n), String.ofList (trim v)) := by
  have hcut : trim (n ++ '=' :: v) =
      n.dropWhile isBlank ++ '=' :: (v.reverse.dropWhile isBlank).reverse :=
    Text.trimBy_append_cons (by decide) n v
  have hequals : '=' ∉ n.dropWhile isBlank := fun hmem =>
    h ((List.dropWhile_sublist isBlank).subset hmem)
  have hname : trim (n.dropWhile isBlank) = trim n := Text.trimBy_dropWhile isBlank n
  have hvalue : trim (v.reverse.dropWhile isBlank).reverse = trim v :=
    Text.trimBy_reverse_dropWhile_reverse isBlank v
  simp only [readPair?, hcut, Text.splitFirst_append hequals, Option.getD_some, hname, hvalue,
    List.isEmpty_iff]

theorem readPair?_of_not_mem (h : '=' ∉ n) :
    readPair? n = if trim n = [] then none else some (String.ofList (trim n), "") := by
  have htrim : trim (trim n) = trim n := (keepsEnds_trimBy isBlank n).trimBy_eq
  have huncut : Text.splitFirst '=' (trim n) = none :=
    Text.splitFirst_eq_none_iff.2 fun hmem => h (Text.mem_of_mem_trimBy hmem)
  simp only [readPair?, huncut, Option.getD_none, htrim, List.isEmpty_iff]
  rfl

theorem Writes.semicolon_not_mem (h : Writes entry s) : ';' ∉ s := by
  have hblank : isBlank ';' = false := by decide
  cases h with
  | pair hname hvalue hn hv =>
    simp [hn.not_mem hblank hname.no_semicolon, hv.not_mem hblank hvalue.no_semicolon]
  | bare hname hn => exact hn.not_mem hblank hname.no_semicolon
  | blank hs => exact hs.not_mem hblank
  | nameless hn hv => simp [hn.not_mem hblank, hv]

/-- A piece is read as the cookie that it is written for. -/
theorem Writes.readPair?_eq (h : Writes entry s) : readPair? s = entry := by
  have hequals : isBlank '=' = false := by decide
  cases h with
  | pair hname hvalue hn hv =>
    rw [readPair?_append (hn.not_mem hequals hname.no_equals), if_neg (hname.trim_ne_nil hn),
      hn.trim_eq hname.ends, hv.trim_eq hvalue.ends, String.ofList_toList, String.ofList_toList]
  | bare hname hn =>
    rw [readPair?_of_not_mem (hn.not_mem hequals hname.no_equals), if_neg (hname.trim_ne_nil hn),
      hn.trim_eq hname.ends, String.ofList_toList]
  | blank hs => rw [readPair?_of_not_mem (hs.not_mem hequals), if_pos hs.trim_eq]
  | nameless hn hv => rw [readPair?_append (hn.not_mem hequals), if_pos hn.trim_eq]

/-- Every piece is written in one of the ways, and for the cookie that is read. -/
theorem writes_readPair? (h : ';' ∉ s) : Writes (readPair? s) s := by
  cases hcut : Text.splitFirst '=' s with
  | none =>
    have hequals := Text.splitFirst_eq_none_iff.1 hcut
    rw [readPair?_of_not_mem hequals]
    by_cases hblank : trim s = []
    · rw [if_pos hblank]
      exact .blank (Text.trim_eq_nil_iff.1 hblank)
    · rw [if_neg hblank]
      exact .bare (validName_trim h hequals hblank) (padded_trim s)
  | some halves =>
    obtain ⟨n, v⟩ := halves
    obtain ⟨rfl, hequals⟩ := Text.splitFirst_eq_some hcut
    simp only [List.mem_append, List.mem_cons, not_or] at h
    obtain ⟨hn, -, hv⟩ := h
    rw [readPair?_append hequals]
    by_cases hblank : trim n = []
    · rw [if_pos hblank]
      exact .nameless (Text.trim_eq_nil_iff.1 hblank) hv
    · rw [if_neg hblank]
      exact .pair (validName_trim hn hequals hblank) (validValue_trim hv) (padded_trim n)
        (padded_trim v)

/-! ### A whole header -/

theorem semicolon_not_mem_of_forall₂ {entries : List (Option (String × String))}
    {pieces : List (List Char)} (h : List.Forall₂ Writes entries pieces) :
    ∀ s ∈ pieces, ';' ∉ s := by
  induction h with
  | nil => simp
  | cons hs _ ih => exact List.forall_mem_cons.2 ⟨hs.semicolon_not_mem, ih⟩

/-- What is read between the semicolons is what the pieces are written for. -/
theorem filterMap_readPair? {entries : List (Option (String × String))} {pieces : List (List Char)}
    (h : List.Forall₂ Writes entries pieces) :
    pieces.filterMap readPair? = entries.reduceOption := by
  induction h with
  | nil => rfl
  | @cons entry s entries pieces hs _ ih =>
    cases entry with
    | none => rw [List.filterMap_cons_none hs.readPair?_eq, ih, List.reduceOption_cons_of_none]
    | some cookie =>
      rw [List.filterMap_cons_some hs.readPair?_eq, ih, List.reduceOption_cons_of_some]

theorem forall₂_writes_readPair? {pieces : List (List Char)} (h : ∀ s ∈ pieces, ';' ∉ s) :
    List.Forall₂ Writes (pieces.map readPair?) pieces := by
  induction pieces with
  | nil => exact .nil
  | cons s pieces ih =>
    obtain ⟨hs, hpieces⟩ := List.forall_mem_cons.1 h
    exact .cons (writes_readPair? hs) (ih hpieces)

/-- A header carries the cookies that are read from it, and no others. -/
theorem carries_iff : Carries header cookies ↔ readList header = cookies := by
  constructor
  · rintro ⟨entries, pieces, hwrites, rfl, hheader⟩
    rw [readList, hheader]
    by_cases hnone : pieces = []
    · -- without pieces the header is empty, and read as one blank piece
      subst hnone
      cases hwrites
      rfl
    · rw [List.splitOn_intercalate _ (semicolon_not_mem_of_forall₂ hwrites) hnone,
        filterMap_readPair? hwrites]
  · rintro rfl
    have hpieces : ∀ s ∈ header.toList.splitOn ';', ';' ∉ s := fun s => Text.not_mem_of_mem_splitOn
    have hwrites := forall₂_writes_readPair? hpieces
    refine ⟨_, _, hwrites, ?_, (List.intercalate_splitOn ';').symm⟩
    rw [← filterMap_readPair? hwrites]
    rfl

/-- **A header is read as the cookies that it carries.**  Every cookie gives its value to its name,
    the last of two with one name counts, and nothing else is in the map.  Valid names and values
    can be written with any padding and between any pieces that are no cookies. -/
theorem ofHeaders_carried {headers : Fields} (hheader : headers.get? "cookie" = some header)
    (h : Carries header cookies) :
    (∀ name value, (ofHeaders headers).get? name = some value ↔
      ∃ before after, cookies = before ++ (name, value) :: after ∧ ∀ p ∈ after, p.1 ≠ name) ∧
    ((ofHeaders headers).entries.map (·.1)).Nodup := by
  have hread : ofHeaders headers = Fields.ofList cookies := by
    rw [ofHeaders, hheader, ← carries_iff.1 h]
  rw [hread]
  exact ⟨fun _ _ => Fields.get?_ofList_eq_some_iff, Fields.nodup_names_ofList cookies⟩

/-- A value with equals signs, a piece that is blank, one with a blank name, a name alone, and a
    name that comes again with an empty value. -/
def crumbs : String := " a =\tx==y ; ;\u00a0=z=; b ;a="

theorem ofHeaders_carried_crumbs :
    Fields.get? ⟨[("host", "h"), ("cookie", crumbs)]⟩ "cookie" = some crumbs ∧
    Carries crumbs [("a", "x==y"), ("b", ""), ("a", "")] ∧
    (ofHeaders ⟨[("host", "h"), ("cookie", crumbs)]⟩).get? "a" = some "" ∧
    (ofHeaders ⟨[("host", "h"), ("cookie", crumbs)]⟩).get? "b" = some "" := by
  have hheader : Fields.get? ⟨[("host", "h"), ("cookie", crumbs)]⟩ "cookie" = some crumbs := by
    decide +kernel
  have ha : ValidName "a" := ⟨by decide, by decide, by decide, by decide⟩
  have hb : ValidName "b" := ⟨by decide, by decide, by decide, by decide⟩
  have hpairs : ValidValue "x==y" := ⟨by decide, by decide⟩
  have hempty : ValidValue "" := ⟨by decide, by decide⟩
  have hfirst : Writes (some ("a", "x==y")) ([' ', 'a', ' '] ++ '=' :: "\tx==y ".toList) :=
    .pair ha hpairs ⟨[' '], [' '], by decide, by decide, by decide⟩
      ⟨['\t'], [' '], by decide, by decide, by decide⟩
  have hnameless : Writes none (['\u00a0'] ++ '=' :: ['z', '=']) :=
    .nameless (by decide) (by decide)
  have hbare : Writes (some ("b", "")) [' ', 'b', ' '] :=
    .bare hb ⟨[' '], [' '], by decide, by decide, by decide⟩
  have hlast : Writes (some ("a", "")) (['a'] ++ '=' :: []) :=
    .pair ha hempty ⟨[], [], by decide, by decide, by decide⟩
      ⟨[], [], by decide, by decide, by decide⟩
  have hcarries : Carries crumbs [("a", "x==y"), ("b", ""), ("a", "")] :=
    ⟨_, _, .cons hfirst (.cons (.blank (s := [' ']) (by decide)) (.cons hnameless
      (.cons hbare (.cons hlast .nil)))), rfl, by decide +kernel⟩
  obtain ⟨hvalues, -⟩ := ofHeaders_carried hheader hcarries
  refine ⟨hheader, hcarries, ?_, ?_⟩
  · rw [hvalues]
    exact ⟨[("a", "x==y"), ("b", "")], [], rfl, by simp⟩
  · rw [hvalues]
    exact ⟨[("a", "x==y")], [("a", "")], rfl, by simp⟩

end RouteServer.Cookie
