import RouteServer.Http.Body

/-
  **Parameters of a header value** — a name, an equals sign and a value, bare or in quotes.

  Blank characters around a parameter and quotes around its value are dropped, so a value that is
  sent in quotes keeps what it begins and ends with, and a bare one has to begin and end with
  something else.  The boundary of a form and the name of a part are both read in this way.
-/

namespace RouteServer.Multipart

open Text (isBlank asciiLower trim trimBy)

/-! ### Ends that are kept -/

/-- A text that neither begins nor ends in a class of characters. -/
def KeepsEnds (p : Char → Bool) (s : List Char) : Prop :=
  (∀ c ∈ s.head?, p c = false) ∧ ∀ c ∈ s.getLast?, p c = false

instance (p : Char → Bool) (s : List Char) : Decidable (KeepsEnds p s) :=
  @instDecidableAnd _ _ (Option.decidableForallMem _) (Option.decidableForallMem _)

variable {p : Char → Bool} {key value s t : List Char}

theorem KeepsEnds.trimBy_eq (h : KeepsEnds p s) : trimBy p s = s :=
  Text.trimBy_eq_self h.1 h.2

theorem KeepsEnds.of_forall (h : ∀ c ∈ s, p c = false) : KeepsEnds p s :=
  ⟨fun c hc => h c (List.mem_of_mem_head? hc), fun c hc => h c (List.mem_of_getLast? hc)⟩

theorem keepsEnds_trimBy (p : Char → Bool) (s : List Char) : KeepsEnds p (trimBy p s) :=
  ⟨fun _ => Text.eq_false_of_head?_trimBy, fun _ => Text.eq_false_of_getLast?_trimBy⟩

theorem KeepsEnds.append_cons {c : Char} (hs : KeepsEnds p s) (hc : p c = false)
    (ht : KeepsEnds p t) : KeepsEnds p (s ++ c :: t) := by
  constructor
  · intro d hd
    cases s with
    | nil =>
      obtain rfl : c = d := Option.some.inj hd
      exact hc
    | cons e s => exact hs.1 d hd
  · intro d hd
    rw [List.getLast?_append, List.getLast?_cons, Option.some_or, Option.mem_def,
      Option.some.injEq] at hd
    cases hlast : t.getLast? with
    | none =>
      rw [hlast, Option.getD_none] at hd
      exact hd ▸ hc
    | some e =>
      rw [hlast, Option.getD_some] at hd
      exact hd ▸ ht.2 e hlast

theorem isBlank_asciiLower (c : Char) : isBlank (asciiLower c) = isBlank c := by
  rcases Text.asciiLower_cases c with hsame | ⟨hlow, hhigh, hshift⟩
  · rw [hsame]
  · rw [Text.isBlank_eq_false (c := c) (by omega) (by omega),
      Text.isBlank_eq_false (by omega) (by omega)]

/-- The case of its letters does not decide whether a text begins or ends blank. -/
theorem KeepsEnds.of_map_asciiLower (h : KeepsEnds isBlank (s.map asciiLower)) :
    KeepsEnds isBlank s := by
  constructor
  · intro c hc
    rw [← isBlank_asciiLower]
    exact h.1 _ (by rw [List.head?_map, Option.mem_def.1 hc]; rfl)
  · intro c hc
    rw [← isBlank_asciiLower]
    exact h.2 _ (by rw [List.getLast?_map, Option.mem_def.1 hc]; rfl)

theorem not_mem_of_not_mem_map_asciiLower {c : Char} (hc : asciiLower c = c)
    (h : c ∉ s.map asciiLower) : c ∉ s := fun hs => h (hc ▸ List.mem_map_of_mem hs)

/-! ### One parameter -/

def quoted (value : List Char) : List Char := '"' :: (value ++ ['"'])

theorem keepsEnds_quoted (hp : p '"' = false) (value : List Char) :
    KeepsEnds p (quoted value) := by
  have hlast : (quoted value).getLast? = some '"' := by
    rw [quoted, ← List.cons_append, List.getLast?_concat]
  constructor
  · intro c hc
    obtain rfl : '"' = c := Option.some.inj hc
    exact hp
  · intro c hc
    obtain rfl : '"' = c := Option.some.inj (hlast.symm.trans hc)
    exact hp

theorem trimBy_quoted (h : KeepsEnds (· == '"') value) :
    trimBy (· == '"') (quoted value) = value := by
  have hquote : ∀ c ∈ ['"'], (c == '"') = true := List.forall_mem_singleton.2 rfl
  exact Text.trimBy_append hquote hquote h.1 h.2

theorem readParam?_eq (hkey : KeepsEnds isBlank key) (heq : '=' ∉ key)
    (hvalue : KeepsEnds isBlank value) :
    readParam? (' ' :: (key ++ '=' :: value)) =
      some (key.map asciiLower, trimBy (· == '"') value) := by
  have hends := hkey.append_cons (by decide : isBlank '=' = false) hvalue
  have htrim : trim (' ' :: (key ++ '=' :: value)) = key ++ '=' :: value := by
    have hspace : ∀ c ∈ [' '], isBlank c = true := List.forall_mem_singleton.2 rfl
    have hnone : ∀ c ∈ ([] : List Char), isBlank c = true := by simp
    have h := Text.trimBy_append hspace hnone hends.1 hends.2
    rwa [List.append_nil] at h
  rw [readParam?, htrim, Text.splitFirst_append heq, Option.map_some]
  simp only [trim, hkey.trimBy_eq, hvalue.trimBy_eq]

theorem splitOn_pair {front back : List Char} (hfront : ';' ∉ front) (hback : ';' ∉ back) :
    (front ++ ';' :: back).splitOn ';' = [front, back] := by
  rw [List.splitOn_append_cons_self_of_not_mem hfront, List.splitOn_eq_singleton hback]

theorem splitOn_triple {front middle back : List Char} (hfront : ';' ∉ front)
    (hmiddle : ';' ∉ middle) (hback : ';' ∉ back) :
    (front ++ ';' :: middle ++ ';' :: back).splitOn ';' = [front, middle, back] := by
  rw [List.append_assoc, List.cons_append, List.splitOn_append_cons_self_of_not_mem hfront,
    splitOn_pair hmiddle hback]

/-! ### The boundary of a form -/

-- the control characters of ASCII: those beyond it may stand in a name and in a boundary
def isControl (c : Char) : Bool := c.toNat < 0x20 || c.toNat == 0x7F

def Printable (s : String) : Prop := ∀ c ∈ s.toList, isControl c = false

instance (s : String) : Decidable (Printable s) := List.decidableBAll _ _

/-- A boundary that a content type can carry, bare as well as in quotes. -/
structure ValidBoundary (boundary : String) : Prop where
  nonempty : boundary ≠ ""
  printable : Printable boundary
  no_semicolon : ';' ∉ boundary.toList
  ends : KeepsEnds (fun c => isBlank c || c == '"') boundary.toList

/-- A content type of a form whose one parameter is this boundary. -/
def NamesBoundary (contentType boundary : String) : Prop :=
  ∃ media key, Text.asciiLowerString media = "multipart/form-data" ∧
    Text.asciiLowerString key = "boundary" ∧
    (contentType = media ++ "; " ++ key ++ "=" ++ boundary ∨
      contentType = media ++ "; " ++ key ++ "=\"" ++ boundary ++ "\"")

variable {boundary contentType : String}

theorem ValidBoundary.keepsBlank (h : ValidBoundary boundary) :
    KeepsEnds isBlank boundary.toList :=
  ⟨fun c hc => (Bool.or_eq_false_iff.1 (h.ends.1 c hc)).1,
    fun c hc => (Bool.or_eq_false_iff.1 (h.ends.2 c hc)).1⟩

theorem ValidBoundary.keepsQuote (h : ValidBoundary boundary) :
    KeepsEnds (· == '"') boundary.toList :=
  ⟨fun c hc => (Bool.or_eq_false_iff.1 (h.ends.1 c hc)).2,
    fun c hc => (Bool.or_eq_false_iff.1 (h.ends.2 c hc)).2⟩

theorem map_asciiLower_of_eq {a b : String} (h : Text.asciiLowerString a = b) :
    a.toList.map asciiLower = b.toList := by
  rw [← h, Text.asciiLowerString, String.toList_ofList]

/-- What a content type is made of, whether its boundary is bare or in quotes. -/
theorem NamesBoundary.exists_value (h : NamesBoundary contentType boundary)
    (hb : ValidBoundary boundary) :
    ∃ media key value : List Char, media.map asciiLower = "multipart/form-data".toList ∧
      key.map asciiLower = "boundary".toList ∧
      contentType.toList = media ++ ';' :: ' ' :: (key ++ '=' :: value) ∧
      ';' ∉ value ∧ KeepsEnds isBlank value ∧ trimBy (· == '"') value = boundary.toList := by
  obtain ⟨media, key, hmedia, hkey, rfl | rfl⟩ := h
  · refine ⟨media.toList, key.toList, boundary.toList, map_asciiLower_of_eq hmedia,
      map_asciiLower_of_eq hkey, ?_, hb.no_semicolon, hb.keepsBlank, hb.keepsQuote.trimBy_eq⟩
    simp [String.toList_append]
  · refine ⟨media.toList, key.toList, quoted boundary.toList, map_asciiLower_of_eq hmedia,
      map_asciiLower_of_eq hkey, ?_, ?_, keepsEnds_quoted (by decide) _,
      trimBy_quoted hb.keepsQuote⟩
    · simp [String.toList_append, quoted]
    · simp [quoted, hb.no_semicolon]

theorem boundary?_of_names (h : NamesBoundary contentType boundary)
    (hb : ValidBoundary boundary) : boundary? contentType = some boundary := by
  obtain ⟨media, key, value, hmedia, hkey, htype, hsemicolon, hvalue, hquotes⟩ := h.exists_value hb
  -- the lower-case spelling is known, and in these respects the case of letters does not matter
  have hmediaBlank : KeepsEnds isBlank media :=
    KeepsEnds.of_map_asciiLower (by rw [hmedia]; decide)
  have hkeyBlank : KeepsEnds isBlank key := KeepsEnds.of_map_asciiLower (by rw [hkey]; decide)
  have hmediaSemicolon : ';' ∉ media :=
    not_mem_of_not_mem_map_asciiLower (by decide) (by rw [hmedia]; decide)
  have hkeySemicolon : ';' ∉ key :=
    not_mem_of_not_mem_map_asciiLower (by decide) (by rw [hkey]; decide)
  have hkeyEquals : '=' ∉ key :=
    not_mem_of_not_mem_map_asciiLower (by decide) (by rw [hkey]; decide)
  have hsplit : contentType.toList.splitOn ';' = [media, ' ' :: (key ++ '=' :: value)] := by
    rw [htype]
    exact splitOn_pair hmediaSemicolon (by simp [hkeySemicolon, hsemicolon])
  have hne : boundary.toList.isEmpty = false := by
    simp [List.isEmpty_eq_false_iff, String.toList_eq_nil_iff, hb.nonempty]
  rw [boundary?, hsplit]
  simp only [trim, hmediaBlank.trimBy_eq, hmedia, if_pos, List.filterMap_cons,
    readParam?_eq hkeyBlank hkeyEquals hvalue, hkey, hquotes, List.filterMap_nil]
  rw [List.find?_cons_of_pos (by simp [hne])]
  simp only [Option.map_some, String.ofList_toList]

/-- The payload is read as a form with the boundary that the content type names. -/
theorem ofContentType_of_names (h : NamesBoundary contentType boundary)
    (hb : ValidBoundary boundary) :
    Request.BodyReading.ofContentType contentType = .multipart boundary := by
  obtain ⟨media, key, value, hmedia, -, htype, -⟩ := h.exists_value hb
  have hlower : "application/x-www-form-urlencoded".toList.isPrefixOf
      (contentType.toList.map asciiLower) = false := by
    rw [htype, List.map_append, hmedia]
    rfl
  rw [Request.BodyReading.ofContentType, boundary?_of_names h hb]
  simp only [hlower, Bool.false_eq_true, if_false]

/-! ### The disposition of a part -/

/-- A name that can be sent in quotes. -/
def Plain (s : String) : Prop := ∀ c ∈ s.toList, isControl c = false ∧ c ≠ '"' ∧ c ≠ ';'

instance (s : String) : Decidable (Plain s) := List.decidableBAll _ _

variable {name filename : String}

/-- A parameter as it is sent behind a semicolon. -/
def printParam (key value : List Char) : List Char := ' ' :: (key ++ '=' :: quoted value)

theorem Plain.readParam?_print (h : Plain name) (hkey : KeepsEnds isBlank key) (heq : '=' ∉ key)
    (hlower : key.map asciiLower = key) :
    readParam? (printParam key name.toList) = some (key, name.toList) := by
  have hquote : KeepsEnds (· == '"') name.toList :=
    KeepsEnds.of_forall fun c hc => beq_eq_false_iff_ne.2 (h c hc).2.1
  rw [printParam, readParam?_eq hkey heq (keepsEnds_quoted (by decide) _), trimBy_quoted hquote,
    hlower]

theorem Plain.semicolon_not_mem_print (h : Plain name) (hkey : ';' ∉ key) :
    ';' ∉ printParam key name.toList := by
  have hname : ';' ∉ name.toList := fun hmem => (h ';' hmem).2.2 rfl
  simp [printParam, quoted, hkey, hname]

def fieldDisposition (name : String) : String := "form-data; name=\"" ++ name ++ "\""

def fileDisposition (name filename : String) : String :=
  fieldDisposition name ++ "; filename=\"" ++ filename ++ "\""

/-- A text that ends in an opening quote, then a value and the closing quote: a parameter more. -/
theorem toList_append_param {front : String} {before : List Char}
    (hfront : front.toList = before ++ ';' :: ' ' :: (key ++ ['=', '"'])) (value : String) :
    (front ++ value ++ "\"").toList = before ++ ';' :: printParam key value.toList := by
  have hclose : "\"".toList = ['"'] := by decide
  rw [String.toList_append, String.toList_append, hfront, hclose]
  simp only [printParam, quoted, List.append_assoc, List.cons_append, List.nil_append]

theorem toList_fieldDisposition (name : String) :
    (fieldDisposition name).toList =
      "form-data".toList ++ ';' :: printParam "name".toList name.toList :=
  toList_append_param (by decide) name

theorem toList_fileDisposition (name filename : String) :
    (fileDisposition name filename).toList = "form-data".toList ++
      ';' :: printParam "name".toList name.toList ++
      ';' :: printParam "filename".toList filename.toList := by
  have hopen : "; filename=\"".toList = ';' :: ' ' :: ("filename".toList ++ ['=', '"']) := by
    decide
  refine toList_append_param ?_ filename
  rw [String.toList_append, toList_fieldDisposition, hopen]

theorem Disposition.add_name (h : key = "name".toList) (d : Disposition) :
    d.add (key, value) = { d with name := some (String.ofList value) } := if_pos h

theorem Disposition.add_filename (hname : key ≠ "name".toList) (h : key = "filename".toList)
    (d : Disposition) : d.add (key, value) = { d with isFile := true } := by
  rw [add, if_neg hname, if_pos h]

theorem Plain.readParam?_name (h : Plain name) :
    readParam? (printParam "name".toList name.toList) = some ("name".toList, name.toList) :=
  h.readParam?_print (by decide) (by decide) (by decide)

theorem Plain.readParam?_filename (h : Plain filename) :
    readParam? (printParam "filename".toList filename.toList) =
      some ("filename".toList, filename.toList) :=
  h.readParam?_print (by decide) (by decide) (by decide)

theorem semicolon_not_mem_formData : ';' ∉ "form-data".toList := by decide

theorem ofText_fieldDisposition (h : Plain name) :
    Disposition.ofText (fieldDisposition name).toList = ⟨some name, false⟩ := by
  have hsplit : (fieldDisposition name).toList.splitOn ';' =
      ["form-data".toList, printParam "name".toList name.toList] := by
    rw [toList_fieldDisposition]
    exact splitOn_pair semicolon_not_mem_formData (h.semicolon_not_mem_print (by decide))
  rw [Disposition.ofText, hsplit]
  simp only [List.drop_succ_cons, List.drop_zero, List.filterMap_cons, h.readParam?_name,
    List.filterMap_nil, List.foldl_cons, List.foldl_nil]
  rw [Disposition.add_name rfl, String.ofList_toList]

theorem ofText_fileDisposition (h : Plain name) (hfile : Plain filename) :
    Disposition.ofText (fileDisposition name filename).toList = ⟨some name, true⟩ := by
  have hsplit : (fileDisposition name filename).toList.splitOn ';' =
      ["form-data".toList, printParam "name".toList name.toList,
        printParam "filename".toList filename.toList] := by
    rw [toList_fileDisposition]
    exact splitOn_triple semicolon_not_mem_formData (h.semicolon_not_mem_print (by decide))
      (hfile.semicolon_not_mem_print (by decide))
  rw [Disposition.ofText, hsplit]
  simp only [List.drop_succ_cons, List.drop_zero, List.filterMap_cons, h.readParam?_name,
    hfile.readParam?_filename, List.filterMap_nil, List.foldl_cons, List.foldl_nil]
  rw [Disposition.add_name rfl, Disposition.add_filename (by decide) rfl, String.ofList_toList]

theorem Printable.append {s t : String} (hs : Printable s) (ht : Printable t) :
    Printable (s ++ t) := by
  intro c hc
  rw [String.toList_append, List.mem_append] at hc
  rcases hc with hc | hc
  · exact hs c hc
  · exact ht c hc

theorem Plain.printable (h : Plain name) : Printable name := fun c hc => (h c hc).1

theorem printable_fieldDisposition (h : Printable name) : Printable (fieldDisposition name) := by
  have hopen : Printable "form-data; name=\"" := by decide
  have hclose : Printable "\"" := by decide
  exact (hopen.append h).append hclose

theorem printable_fileDisposition (h : Printable name) (hfile : Printable filename) :
    Printable (fileDisposition name filename) := by
  have hopen : Printable "; filename=\"" := by decide
  have hclose : Printable "\"" := by decide
  exact (((printable_fieldDisposition h).append hopen).append hfile).append hclose

theorem exists_append_printParam_eq {c : Char} {before front : List Char} (h : before = c :: front)
    (key value : List Char) :
    ∃ s, before ++ ';' :: printParam key value = c :: (s ++ ['"']) := by
  subst h
  exact ⟨front ++ ';' :: ' ' :: (key ++ '=' :: '"' :: value), by simp [printParam, quoted]⟩

/-- A disposition begins with a letter and ends in a quote, so it has no padding of its own. -/
theorem exists_fieldDisposition_eq (name : String) :
    ∃ s, (fieldDisposition name).toList = 'f' :: (s ++ ['"']) := by
  have hfirst : "form-data".toList = 'f' :: "orm-data".toList := by decide
  rw [toList_fieldDisposition]
  exact exists_append_printParam_eq hfirst _ _

theorem exists_fileDisposition_eq (name filename : String) :
    ∃ s, (fileDisposition name filename).toList = 'f' :: (s ++ ['"']) := by
  obtain ⟨s, hs⟩ := exists_fieldDisposition_eq name
  rw [toList_fileDisposition, ← toList_fieldDisposition]
  exact exists_append_printParam_eq hs _ _

end RouteServer.Multipart
