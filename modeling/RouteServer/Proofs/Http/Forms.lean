import RouteServer.Proofs.Http.Fields
import RouteServer.Proofs.Http.HeaderLines
import RouteServer.Proofs.Http.Parameters
import Mathlib.Data.List.Basic

/-
  **Forms there and back** — the fields of a multipart body are the text parts it was made of.

  A content may hold line breaks, dashes, header lines and most of a delimiter, but not a line break
  in front of the whole delimiter.  The boundary has no control character, so the carriage return
  stands in the delimiter only where it begins, and no occurrence of it can begin in a content and
  end behind it (`readPart?_print`).  So every part is followed by the next one, and the loop reads
  the parts that were sent (`fieldsBehind_behind`).
-/

namespace RouteServer.Multipart

open HeaderBlock (Line)
open Text.Utf8 (encode encodeString encodeString_append)

/-! ### Parts as they are sent -/

inductive Content where
  | text (value : String)
  | file (filename : String) (bytes : List UInt8)
  deriving DecidableEq

def Content.bytes : Content → List UInt8
  | .text value => encodeString value
  | .file _ bytes => bytes

/-- A part of a form; `headers` are the lines behind its disposition. -/
structure Part where
  name : String
  content : Content
  headers : List Line

namespace Part

def disposition (p : Part) : String :=
  match p.content with
  | .text _ => fieldDisposition p.name
  | .file filename _ => fileDisposition p.name filename

def lines (p : Part) : List Line :=
  ⟨"Content-Disposition", encodeString (" " ++ p.disposition)⟩ :: p.headers

def print (p : Part) : List UInt8 :=
  p.lines.flatMap Line.print ++ (encodeString "\r\n" ++ p.content.bytes)

/-- The field that a text part stands for. -/
def field? (p : Part) : Option (String × String) :=
  match p.content with
  | .text value => some (p.name, value)
  | .file _ _ => none

/-- A part that can be sent between delimiters of this boundary. -/
structure WellFormed (boundary : String) (p : Part) : Prop where
  name : Plain p.name
  filename : ∀ filename bytes, p.content = .file filename bytes → Plain filename
  headers : ∀ l ∈ p.headers, l.WellFormed
  few : p.headers.length < HeaderBlock.maxLines
  closed : ¬ encodeString ("\r\n--" ++ boundary) <:+: p.content.bytes

end Part

/-- A form as it is sent: each part between two delimiters, and two dashes behind the last. -/
def body (boundary : String) (parts : List Part) : List UInt8 :=
  parts.flatMap (fun p =>
    encodeString ("--" ++ boundary ++ "\r\n") ++ (p.print ++ encodeString "\r\n")) ++
  encodeString ("--" ++ boundary ++ "--\r\n")

/-- Whether this value is that of the last text part with this name. -/
def IsLastValue (parts : List Part) (name value : String) : Prop :=
  ∃ before part after, parts = before ++ part :: after ∧
    part.name = name ∧ part.content = .text value ∧
    ∀ later ∈ after, later.name = name → ∀ v, later.content ≠ .text v

variable {boundary name value : String} {p : Part} {parts : List Part}

/-! ### The lines of a part -/

theorem Printable.isValueByte_of_mem {s : String} (h : Printable s) :
    ∀ b ∈ encodeString s, HeaderBlock.isValueByte b = true := by
  intro b hb
  have hvisible : 0x20 ≤ b.toNat ∧ b.toNat ≠ 0x7F := by
    by_cases hlow : b.toNat < 0x80
    · obtain ⟨c, hc, hcb⟩ := Text.Utf8.exists_mem_of_mem_encode hb hlow
      have hcontrol := h c hc
      simp only [isControl, Bool.or_eq_false_iff, decide_eq_false_iff_not, beq_eq_false_iff_ne]
        at hcontrol
      omega
    · omega
  simp only [HeaderBlock.isValueByte, Bool.or_eq_true, Bool.and_eq_true, decide_eq_true_eq,
    bne_iff_ne, UInt8.le_iff_toNat_le, ne_eq, ← UInt8.toNat_inj]
  exact Or.inr hvisible

theorem Part.WellFormed.printable (h : p.WellFormed boundary) : Printable p.disposition := by
  rw [Part.disposition]
  split
  · exact printable_fieldDisposition h.name.printable
  · rename_i filename bytes hcontent
    exact printable_fileDisposition h.name.printable (h.filename filename bytes hcontent).printable

theorem Part.wellFormed_lines (h : Printable p.disposition)
    (hmore : ∀ l ∈ p.headers, l.WellFormed) : ∀ l ∈ p.lines, l.WellFormed := by
  have htoken : isToken "Content-Disposition" = true := by decide
  have hspace : Printable " " := by decide
  intro l hl
  rcases List.mem_cons.1 hl with rfl | hl
  · exact ⟨htoken, (hspace.append h).isValueByte_of_mem⟩
  · exact hmore l hl

theorem Part.exists_disposition_eq (p : Part) :
    ∃ s, p.disposition.toList = 'f' :: (s ++ ['"']) := by
  rw [disposition]
  split
  · exact exists_fieldDisposition_eq p.name
  · exact exists_fileDisposition_eq p.name _

theorem Part.trimBy_disposition (p : Part) :
    Text.trimBy HeaderBlock.isPadding (encodeString (" " ++ p.disposition)) =
      encodeString p.disposition := by
  obtain ⟨s, hs⟩ := p.exists_disposition_eq
  have hbytes : encodeString p.disposition = 0x66 :: (encode s ++ [0x22]) := by
    rw [encodeString, hs, Text.Utf8.encode_cons, Text.Utf8.encode_append]
    rfl
  have hspace : ∀ b ∈ encodeString " ", HeaderBlock.isPadding b = true :=
    List.forall_mem_singleton.2 rfl
  have hnone : ∀ b ∈ ([] : List UInt8), HeaderBlock.isPadding b = true := by simp
  have hhead : ∀ b ∈ (encodeString p.disposition).head?, HeaderBlock.isPadding b = false := by
    rw [hbytes]
    intro b hb
    obtain rfl : 0x66 = b := Option.some.inj hb
    decide
  have hlast : ∀ b ∈ (encodeString p.disposition).getLast?, HeaderBlock.isPadding b = false := by
    rw [hbytes, ← List.cons_append, List.getLast?_concat]
    intro b hb
    obtain rfl : 0x22 = b := Option.some.inj hb
    decide
  have htrim := Text.trimBy_append hspace hnone hhead hlast
  rwa [List.append_nil, ← encodeString_append] at htrim

theorem Part.WellFormed.ofText_disposition (h : p.WellFormed boundary) :
    Disposition.ofText p.disposition.toList = ⟨some p.name, p.field?.isNone⟩ := by
  rw [Part.disposition, Part.field?]
  split
  · exact ofText_fieldDisposition h.name
  · rename_i filename bytes hcontent
    exact ofText_fileDisposition h.name (h.filename filename bytes hcontent)

theorem Part.find?_lines (p : Part) :
    (p.lines.map Line.header).find? (fun h => Text.sameIgnoringCase h.name "content-disposition") =
      some ⟨"Content-Disposition", encodeString p.disposition⟩ := by
  have hname : Text.sameIgnoringCase "Content-Disposition" "content-disposition" = true := by decide
  have hheader : Line.header ⟨"Content-Disposition", encodeString (" " ++ p.disposition)⟩ =
      ⟨"Content-Disposition", encodeString p.disposition⟩ :=
    congrArg (Header.mk "Content-Disposition") p.trimBy_disposition
  rw [lines, List.map_cons, hheader]
  exact List.find?_cons_of_pos hname

theorem Part.disposition?_lines (p : Part) :
    disposition? (p.lines.map Line.header) = some (.ofText p.disposition.toList) := by
  rw [disposition?, p.find?_lines]
  simp only [encodeString, Text.Utf8.decode?_encode, Option.map_some]

/-- The field that the reader takes a part for. -/
def Part.read? (p : Part) : Option (String × String) :=
  Multipart.field? (p.lines.map Line.header) p.content.bytes

theorem Part.WellFormed.read?_eq (h : p.WellFormed boundary) : p.read? = p.field? := by
  rw [Part.read?, Multipart.field?, p.disposition?_lines, h.ofText_disposition, Part.field?]
  cases p.content with
  | text value =>
    simp only [Option.isNone_some, Content.bytes, Text.Utf8.decodeLossyString_encodeString]
  | file filename bytes => rfl

/-! ### One part behind a delimiter -/

/-- The delimiter between two parts, as the reader looks for it. -/
def closing (boundary : String) : List UInt8 :=
  0x0D :: 0x0A :: 0x2D :: 0x2D :: encodeString boundary

theorem encodeString_closing (boundary : String) :
    encodeString ("\r\n--" ++ boundary) = closing boundary := by
  rw [encodeString_append]
  rfl

theorem ValidBoundary.return_not_mem (hb : ValidBoundary boundary) :
    0x0D ∉ 0x0A :: 0x2D :: 0x2D :: encodeString boundary := by
  have hboundary : 0x0D ∉ encodeString boundary := by
    intro hmem
    obtain ⟨c, hc, hreturn⟩ := Text.Utf8.exists_mem_of_mem_encode hmem (by decide)
    have hcontrol := hb.printable c hc
    rw [isControl, hreturn] at hcontrol
    exact absurd hcontrol (by decide)
  simp [hboundary]

/-- A part that the reader takes off whole, whatever its disposition says: the delimiter behind the
    content is the first one. -/
structure Part.Framed (boundary : String) (p : Part) : Prop where
  lines : ∀ l ∈ p.lines, l.WellFormed
  few : p.lines.length ≤ HeaderBlock.maxLines
  ends : ¬ closing boundary <:+: (p.content.bytes ++ closing boundary).dropLast

theorem Part.WellFormed.framed (hb : ValidBoundary boundary) (h : p.WellFormed boundary) :
    p.Framed boundary := by
  refine ⟨p.wellFormed_lines h.printable h.headers, h.few, ?_⟩
  have hclosed : ¬ closing boundary <:+: p.content.bytes :=
    encodeString_closing boundary ▸ h.closed
  exact Text.not_infix_dropLast hb.return_not_mem hclosed

/-- A part in front of a delimiter is read as its lines and its content. -/
theorem readPart?_print (h : p.Framed boundary) (rest : List UInt8) :
    readPart? (closing boundary) (0x0D :: 0x0A :: (p.print ++ (closing boundary ++ rest))) =
      some ((p.lines.map Line.header, p.content.bytes), rest) := by
  have hprint : p.print ++ (closing boundary ++ rest) = p.lines.flatMap Line.print ++
      0x0D :: 0x0A :: (p.content.bytes ++ (closing boundary ++ rest)) := by
    rw [Part.print, List.append_assoc, List.append_assoc]
    rfl
  have hlines : HeaderBlock.read? (p.print ++ (closing boundary ++ rest)) =
      some (p.lines.map Line.header, p.content.bytes ++ (closing boundary ++ rest)) := by
    rw [hprint]
    exact HeaderBlock.readLines?_print h.lines h.few _
  have hcontent :
      Text.findFirst (closing boundary) (p.content.bytes ++ (closing boundary ++ rest)) =
        some (p.content.bytes, rest) := Text.findFirst_append_of_not_infix h.ends rest
  simp only [readPart?, hlines, hcontent, Option.map_some]

/-! ### The whole body -/

/-- What stands behind the delimiter in front of these parts. -/
def behind (boundary : String) : List Part → List UInt8
  | [] => [0x2D, 0x2D, 0x0D, 0x0A]
  | p :: parts => 0x0D :: 0x0A :: (p.print ++ (closing boundary ++ behind boundary parts))

theorem body_eq (boundary : String) (parts : List Part) :
    body boundary parts = 0x2D :: 0x2D :: (encodeString boundary ++ behind boundary parts) := by
  induction parts with
  | nil =>
    rw [body, List.flatMap_nil, List.nil_append, encodeString_append, encodeString_append]
    rfl
  | cons p parts ih =>
    have hcons : body boundary (p :: parts) =
        encodeString ("--" ++ boundary ++ "\r\n") ++ (p.print ++ encodeString "\r\n") ++
          body boundary parts := by
      rw [body, List.flatMap_cons, List.append_assoc]
      rfl
    rw [hcons, ih, encodeString_append, encodeString_append]
    simp only [List.append_assoc]
    rfl

example : body "b" [⟨"n", .text "v", []⟩, ⟨"m", .file "f" [0xFF], []⟩] =
    encodeString ("--b\r\nContent-Disposition: form-data; name=\"n\"\r\n\r\nv\r\n" ++
      "--b\r\nContent-Disposition: form-data; name=\"m\"; filename=\"f\"\r\n\r\n") ++
    0xFF :: encodeString "\r\n--b--\r\n" := by
  decide +kernel

theorem fieldsBehind_of_readPart? {delimiter s content r : List UInt8} {headers : List Header}
    (h : readPart? delimiter s = some ((headers, content), r)) :
    fieldsBehind delimiter s =
      (Multipart.field? headers content).toList ++ fieldsBehind delimiter r := by
  rw [fieldsBehind]
  split
  · rename_i hnone
    rw [h] at hnone
    cases hnone
  · rename_i hsome
    rw [h] at hsome
    cases hsome
    rfl

theorem fieldsBehind_behind (h : ∀ p ∈ parts, p.Framed boundary) :
    fieldsBehind (closing boundary) (behind boundary parts) = parts.filterMap Part.read? := by
  induction parts with
  | nil =>
    unfold fieldsBehind
    rfl
  | cons p parts ih =>
    have hrest := ih fun q hq => h q (List.mem_cons_of_mem p hq)
    have hread := readPart?_print (h p List.mem_cons_self) (behind boundary parts)
    have hstep : fieldsBehind (closing boundary) (behind boundary (p :: parts)) =
        p.read?.toList ++ fieldsBehind (closing boundary) (behind boundary parts) := by
      rw [behind]
      exact fieldsBehind_of_readPart? hread
    rw [hstep, hrest]
    cases hfield : p.read? with
    | none => rw [List.filterMap_cons_none hfield]; rfl
    | some f => rw [List.filterMap_cons_some hfield]; rfl

theorem decodeList_framed (h : ∀ p ∈ parts, p.Framed boundary) :
    decodeList boundary (body boundary parts) = parts.filterMap Part.read? := by
  have hfirst : Text.findFirst (0x2D :: 0x2D :: encodeString boundary) (body boundary parts) =
      some ([], behind boundary parts) := by
    rw [body_eq]
    exact Text.findFirst_append_self (0x2D :: 0x2D :: encodeString boundary) _
  simp only [decodeList, hfirst]
  exact fieldsBehind_behind h

theorem decodeList_body (hb : ValidBoundary boundary) (h : ∀ p ∈ parts, p.WellFormed boundary) :
    decodeList boundary (body boundary parts) = parts.filterMap Part.field? := by
  rw [decodeList_framed fun p hp => (h p hp).framed hb]
  exact List.filterMap_congr fun p hp => (h p hp).read?_eq

/-! ### The form of a request -/

theorem Part.field?_eq_some_iff : p.field? = some (name, value) ↔
    p.name = name ∧ p.content = .text value := by
  rw [Part.field?]
  cases p.content with
  | text v => simp
  | file filename bytes => simp

theorem get?_ofList_iff_isLastValue :
    (Fields.ofList (parts.filterMap Part.field?)).get? name = some value ↔
      IsLastValue parts name value := by
  rw [Fields.get?_ofList_eq_some_iff]
  constructor
  · rintro ⟨earlier, later, hfields, hlast⟩
    -- the field comes from a part, and the fields behind it from the parts behind that one
    obtain ⟨first, second, rfl, -, hsecond⟩ := List.filterMap_eq_append_iff.1 hfields
    obtain ⟨skipped, part, after, rfl, -, hpart, rfl⟩ := List.filterMap_eq_cons_iff.1 hsecond
    obtain ⟨hname, hcontent⟩ := Part.field?_eq_some_iff.1 hpart
    refine ⟨first ++ skipped, part, after, (List.append_assoc ..).symm, hname, hcontent, ?_⟩
    intro q hq hqname v hv
    exact hlast (name, v)
      (List.mem_filterMap.2 ⟨q, hq, Part.field?_eq_some_iff.2 ⟨hqname, hv⟩⟩) rfl
  · rintro ⟨before, part, after, rfl, hname, hcontent, hlast⟩
    refine ⟨before.filterMap Part.field?, after.filterMap Part.field?, ?_, ?_⟩
    · rw [List.filterMap_append,
        List.filterMap_cons_some (Part.field?_eq_some_iff.2 ⟨hname, hcontent⟩)]
    · rintro ⟨n, v⟩ hmem rfl
      obtain ⟨q, hq, hfield⟩ := List.mem_filterMap.1 hmem
      obtain ⟨hqname, hv⟩ := Part.field?_eq_some_iff.1 hfield
      exact hlast q hq hqname v hv

theorem body_isEmpty (boundary : String) (parts : List Part) :
    (body boundary parts).isEmpty = false := by
  rw [body_eq]
  rfl

/-- **A form is read as it was sent.**  Every text part gives its value to its name, the last of
    two with one name counts, and files give nothing; of the request only the form and the raw
    body change. -/
theorem applyBody_body {r : Request} (hnames : NamesBoundary r.contentType boundary)
    (hb : ValidBoundary boundary) (h : ∀ p ∈ parts, p.WellFormed boundary) :
    ∃ form : Fields,
      r.applyBody (body boundary parts) =
        { r with form := form, rawBody := body boundary parts } ∧
      (∀ name value, form.get? name = some value ↔ IsLastValue parts name value) ∧
      (form.entries.map (·.1)).Nodup := by
  refine ⟨Fields.ofList (parts.filterMap Part.field?), ?_, fun name value =>
    get?_ofList_iff_isLastValue, Fields.nodup_names_ofList _⟩
  simp only [Request.applyBody, body_isEmpty, ofContentType_of_names hnames hb, decode,
    decodeList_body hb h, Bool.false_eq_true, if_false]

/-- Two values for one name, the first full of what looks like a delimiter, and a file. -/
def notes : List Part := [
  ⟨"note", .text "--a b\r\n--a\r\n\r\nContent-Disposition: form-data; name=\"x\"\r\n--", []⟩,
  ⟨"größe", .file "ü .bin" [0xFF, 0x0D, 0x0A, 0x2D, 0x2D, 0x61], [⟨"Content-Type", [0x20, 0x61]⟩]⟩,
  ⟨"note", .text "", []⟩]

theorem notes_wellFormed : ∀ p ∈ notes, p.WellFormed "a b" := by
  have hplain : ∀ p ∈ notes, Plain p.name := by decide +kernel
  have hfilename : Plain "ü .bin" := by decide +kernel
  have hheaders : ∀ p ∈ notes, ∀ l ∈ p.headers, l.WellFormed := by decide +kernel
  have hfew : ∀ p ∈ notes, p.headers.length < HeaderBlock.maxLines := by decide
  have hclosed : ∀ p ∈ notes, ¬ encodeString ("\r\n--" ++ "a b") <:+: p.content.bytes := by
    decide +kernel
  intro p hp
  refine ⟨hplain p hp, ?_, hheaders p hp, hfew p hp, hclosed p hp⟩
  rintro filename bytes hcontent
  simp only [notes, List.mem_cons, List.not_mem_nil, or_false] at hp
  rcases hp with rfl | rfl | rfl
  · cases hcontent
  · cases hcontent
    exact hfilename
  · cases hcontent

def notesRequest : Request :=
  { Request.bare .post "/notes" with
    headers := ⟨[("content-type", "Multipart/Form-DATA; Boundary=\"a b\"")]⟩ }

theorem applyBody_body_notes :
    NamesBoundary notesRequest.contentType "a b" ∧ ValidBoundary "a b" ∧
    ∃ form : Fields,
      notesRequest.applyBody (body "a b" notes) =
        { notesRequest with form := form, rawBody := body "a b" notes } ∧
      form.get? "note" = some "" ∧ form.get? "größe" = none := by
  have hnames : NamesBoundary notesRequest.contentType "a b" :=
    ⟨"Multipart/Form-DATA", "Boundary", by decide +kernel, by decide +kernel,
      Or.inr (by decide +kernel)⟩
  have hb : ValidBoundary "a b" := ⟨by decide, by decide, by decide, by decide⟩
  obtain ⟨form, hform, hvalues, -⟩ := applyBody_body hnames hb notes_wellFormed
  refine ⟨hnames, hb, form, hform, ?_, ?_⟩
  · rw [hvalues]
    exact ⟨notes.take 2, _, [], rfl, rfl, rfl, by simp⟩
  · rw [Option.eq_none_iff_forall_ne_some]
    intro value hvalue
    obtain ⟨before, part, after, hparts, hname, hcontent, -⟩ := (hvalues _ _).1 hvalue
    have hmem : part ∈ notes := by rw [hparts]; simp
    simp only [notes, List.mem_cons, List.not_mem_nil, or_false] at hmem
    rcases hmem with rfl | rfl | rfl
    · exact absurd hname (by decide)
    · cases hcontent
    · exact absurd hname (by decide)

end RouteServer.Multipart
