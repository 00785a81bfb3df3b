import RouteServer.Proofs.Net.Requests

/-
  **Headers by name** — which line of a request a header lookup finds.

  Lines may repeat a name, in any case of its letters.  The map that an action is given folds the
  names to lower case, so all lines of one name write to the same entry, and the last of them is
  kept (`get?_fieldsOf_eq_some_iff`).  A lookup goes the other way: it compares names without regard
  to case and takes the first entry that fits.  Since the map is `Folded`, no second entry can fit,
  and neither the order of the entries nor the case that is asked for makes a difference.
-/

namespace RouteServer

open Text (asciiLower asciiLowerString sameIgnoringCase)

theorem Text.asciiLower_asciiLower (c : Char) : asciiLower (asciiLower c) = asciiLower c := by
  rcases Text.asciiLower_cases (asciiLower c) with hsame | ⟨hlow, hhigh, -⟩
  · exact hsame
  · -- a capital is its own small form only if it is none
    rcases Text.asciiLower_cases c with hsame | ⟨hlow', hhigh', hshift⟩
    · rw [hsame, hsame]
    · omega

theorem Text.asciiLowerString_asciiLowerString (s : String) :
    asciiLowerString (asciiLowerString s) = asciiLowerString s := by
  have htwice : asciiLower ∘ asciiLower = asciiLower := funext Text.asciiLower_asciiLower
  rw [asciiLowerString, asciiLowerString, String.toList_ofList, List.map_map, htwice]

namespace Wire

/-- The last line of a name, whatever the case of its letters. -/
def LastNamed (name : String) (headers : List Header) (h : Header) : Prop :=
  ∃ before after, headers = before ++ h :: after ∧ sameIgnoringCase h.name name = true ∧
    ∀ k ∈ after, sameIgnoringCase k.name name = false

/-- What a line adds to the map. -/
def fieldOf (h : Header) : String × String :=
  (asciiLowerString h.name, Text.Utf8.decodeLossyString h.value)

variable {headers : List Header} {name value : String}

theorem sameIgnoringCase_eq_false_iff {h : Header} :
    sameIgnoringCase h.name name = false ↔ (fieldOf h).1 ≠ asciiLowerString name := by
  rw [sameIgnoringCase, beq_eq_false_iff_ne]
  rfl

theorem folded_fieldsOf (headers : List Header) : (fieldsOf headers).Folded where
  nodup := Fields.nodup_names_ofList _
  lower := by
    intro e he
    have hname := Fields.mem_names_ofList.1 (List.mem_map_of_mem he)
    rw [List.map_map] at hname
    obtain ⟨h, -, hh⟩ := List.mem_map.1 hname
    rw [← hh]
    exact Text.asciiLowerString_asciiLowerString h.name

/-- A lower-case name has the value of the last line of that name. -/
theorem get?_fieldsOf_eq_some_iff :
    (fieldsOf headers).get? (asciiLowerString name) = some value ↔
      ∃ h, LastNamed name headers h ∧ Text.Utf8.decodeLossyString h.value = value := by
  have hfields : fieldsOf headers = Fields.ofList (headers.map fieldOf) := rfl
  rw [hfields, Fields.get?_ofList_eq_some_iff]
  constructor
  · rintro ⟨before, after, hsplit, hafter⟩
    obtain ⟨front, rest, rfl, rfl, hrest⟩ := List.map_eq_append_iff.1 hsplit
    obtain ⟨h, back, rfl, hh, rfl⟩ := List.map_eq_cons_iff.1 hrest
    obtain ⟨hname, hvalue⟩ := Prod.mk.inj hh
    refine ⟨h, ⟨front, back, rfl, ?_, ?_⟩, hvalue⟩
    · rw [sameIgnoringCase, hname, beq_self_eq_true]
    · intro k hk
      rw [sameIgnoringCase_eq_false_iff]
      exact hafter (fieldOf k) (List.mem_map_of_mem hk)
  · rintro ⟨h, ⟨before, after, rfl, hname, hafter⟩, rfl⟩
    rw [sameIgnoringCase, beq_iff_eq] at hname
    refine ⟨before.map fieldOf, after.map fieldOf, ?_, ?_⟩
    · rw [List.map_append, List.map_cons, fieldOf, hname]
    · intro p hp
      obtain ⟨k, hk, rfl⟩ := List.mem_map.1 hp
      exact sameIgnoringCase_eq_false_iff.1 (hafter k hk)

theorem get?_fieldsOf_eq_none_iff :
    (fieldsOf headers).get? (asciiLowerString name) = none ↔
      ∀ h ∈ headers, sameIgnoringCase h.name name = false := by
  rw [Fields.get?, Fields.lookup_eq_none_iff]
  simp only [sameIgnoringCase_eq_false_iff]
  constructor
  · intro hnone h hh hname
    apply hnone
    rw [← hname]
    apply Fields.mem_names_ofList.2
    rw [List.map_map]
    exact List.mem_map_of_mem hh
  · intro hnone hmem
    have hname := Fields.mem_names_ofList.1 hmem
    rw [List.map_map] at hname
    obtain ⟨h, hh, heq⟩ := List.mem_map.1 hname
    exact hnone h hh heq

namespace Message

theorem request_headers (m : Message) :
    m.request.headers = fieldsOf m.headers ∧
      m.request.cookies = Cookie.ofHeaders (fieldsOf m.headers) := by
  obtain ⟨form, body, rawBody, h⟩ := m.exists_request_eq
  simp only [h, head, and_self]

theorem header?_request (m : Message) (name : String) :
    m.request.header? name = (fieldsOf m.headers).get? (asciiLowerString name) := by
  rw [Request.header?, m.request_headers.1, (folded_fieldsOf m.headers).getIgnoringCase?_eq]

/-- **A header is found whatever the case of its name, and is the last line that has it.**  No
    second entry of the map fits the name, so the answer is the same for every order of the entries
    and every case of the name that is asked for.  The cookies are those of the same last line. -/
theorem header?_unambiguous (m : Message) :
    (∀ name value, m.request.header? name = some value ↔
      ∃ h, LastNamed name m.headers h ∧ Text.Utf8.decodeLossyString h.value = value) ∧
    (∀ name, m.request.header? name = none ↔
      ∀ h ∈ m.headers, sameIgnoringCase h.name name = false) ∧
    (∀ name other, sameIgnoringCase name other = true →
      m.request.header? name = m.request.header? other) ∧
    (∀ name, ∀ e ∈ m.request.headers.entries, ∀ e' ∈ m.request.headers.entries,
      sameIgnoringCase e.1 name = true → sameIgnoringCase e'.1 name = true → e = e') ∧
    (∀ entries : List (String × String), entries.Perm m.request.headers.entries →
      (∀ name, { m.request with headers := ⟨entries⟩ }.header? name = m.request.header? name) ∧
      Cookie.ofHeaders ⟨entries⟩ = m.request.cookies) ∧
    (∀ h, LastNamed "cookie" m.headers h →
      m.request.cookies =
        Fields.ofList (Cookie.readList (Text.Utf8.decodeLossyString h.value))) ∧
    ((∀ h ∈ m.headers, sameIgnoringCase h.name "cookie" = false) →
      m.request.cookies = Fields.empty) := by
  have hcookie : asciiLowerString "cookie" = "cookie" := by decide +kernel
  obtain ⟨hheaders, hcookies⟩ := m.request_headers
  have hfolded : m.request.headers.Folded := hheaders ▸ folded_fieldsOf m.headers
  refine ⟨?_, ?_, ?_, ?_, ?_, ?_, ?_⟩
  · intro name value
    rw [header?_request, get?_fieldsOf_eq_some_iff]
  · intro name
    rw [header?_request, get?_fieldsOf_eq_none_iff]
  · intro name other hsame
    rw [sameIgnoringCase, beq_iff_eq] at hsame
    rw [header?_request, header?_request, hsame]
  · intro name e he e' he' hfits hfits'
    exact hfolded.eq_of_fits he he' hfits hfits'
  · intro entries hperm
    refine ⟨fun name => hfolded.getIgnoringCase?_perm hperm name, ?_⟩
    rw [hcookies, Cookie.ofHeaders, Cookie.ofHeaders, ← hheaders, hfolded.get?_perm hperm]
  · intro h hlast
    have hvalue := get?_fieldsOf_eq_some_iff.2 ⟨h, hlast, rfl⟩
    rw [hcookie] at hvalue
    rw [hcookies, Cookie.ofHeaders, hvalue]
  · intro hnone
    have hvalue := get?_fieldsOf_eq_none_iff.2 hnone
    rw [hcookie] at hvalue
    rw [hcookies, Cookie.ofHeaders, hvalue]

/-- Two names, each in several cases; a value is no UTF-8, and the last cookies are not the most. -/
def visit : Message where
  method := .get
  target := "/"
  headers := [
    ⟨"Cookie", Text.Utf8.encodeString "a=1; b=2"⟩, ⟨"X-Mark", [0x61]⟩, ⟨"x-mARK", [0x62, 0xFF]⟩,
    ⟨"COOKIE", Text.Utf8.encodeString "b=3"⟩, ⟨"X-Mar", [0x63]⟩]
  body := []

theorem header?_unambiguous_visit :
    sameIgnoringCase "X-MARK" "x-mark" = true ∧
    visit.request.header? "X-MARK" = some "b\ufffd" ∧
    visit.request.header? "x-mark" = some "b\ufffd" ∧
    visit.request.header? "X-Marks" = none ∧
    visit.request.cookies = Fields.ofList [("b", "3")] ∧
    ∀ entries : List (String × String), entries.Perm visit.request.headers.entries →
      { visit.request with headers := ⟨entries⟩ }.header? "X-MARK" = some "b\ufffd" := by
  obtain ⟨hsome, hnone, hcase, -, horder, hcookies, -⟩ := header?_unambiguous visit
  have hsame : sameIgnoringCase "X-MARK" "x-mark" = true := by decide +kernel
  have hmark : visit.request.header? "X-MARK" = some "b\ufffd" := by
    rw [hsome]
    exact ⟨⟨"x-mARK", [0x62, 0xFF]⟩, ⟨visit.headers.take 2, visit.headers.drop 3, rfl,
      by decide +kernel, by decide +kernel⟩, by decide +kernel⟩
  refine ⟨hsame, hmark, hcase _ _ hsame ▸ hmark, ?_, ?_, ?_⟩
  · rw [hnone]
    decide +kernel
  · rw [hcookies ⟨"COOKIE", Text.Utf8.encodeString "b=3"⟩ ⟨visit.headers.take 3,
      visit.headers.drop 4, rfl, by decide +kernel, by decide +kernel⟩]
    decide +kernel
  · intro entries hperm
    rw [(horder entries hperm).1, hmark]

end Message

end Wire

end RouteServer
