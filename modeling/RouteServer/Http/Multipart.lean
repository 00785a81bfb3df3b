import RouteServer.Http.Fields
import RouteServer.Http.HeaderBlock
import RouteServer.Text.Blank
import RouteServer.Text.LowerCase
import RouteServer.Text.Split

/-
  **Multipart forms** — form fields in parts between delimiter lines.

  The content type names a boundary, and `--` with the boundary delimits the parts.  A part is a
  header block and a content, which ends at the first line break that is followed by the delimiter.
  The name of a field stands in the part's content disposition; a part that also has a file name is
  a file, and files are not collected.  Reading stops at the first part that is malformed or has no
  end, and keeps the fields before it.
-/

namespace RouteServer.Multipart

/-- A parameter of a header value: its name in lower case, and its value without quotes. -/
def readParam? (piece : List Char) : Option (List Char × List Char) :=
  (Text.splitFirst '=' (Text.trim piece)).map fun p =>
    ((Text.trim p.1).map Text.asciiLower, Text.trimBy (· == '"') (Text.trim p.2))

/-- The boundary that a content type names, if it is the type of a multipart form.  A parameter
    with an empty value is passed over. -/
def boundary? (contentType : String) : Option String :=
  match contentType.toList.splitOn ';' with
  | [] => none
  | media :: params =>
    if (Text.trim media).map Text.asciiLower = "multipart/form-data".toList then
      ((params.filterMap readParam?).find? fun p =>
        p.1 = "boundary".toList && !p.2.isEmpty).map fun p => String.ofList p.2
    else none

/-- What a content disposition says of a part. -/
structure Disposition where
  /-- the last `name` parameter -/
  name : Option String
  isFile : Bool
  deriving DecidableEq, Repr

def Disposition.add (d : Disposition) (p : List Char × List Char) : Disposition :=
  if p.1 = "name".toList then { d with name := some (String.ofList p.2) }
  else if p.1 = "filename".toList then { d with isFile := true }
  else d

/-- Reads the parameters behind the first semicolon. -/
def Disposition.ofText (s : List Char) : Disposition :=
  (((s.splitOn ';').drop 1).filterMap readParam?).foldl .add ⟨none, false⟩

/-- The disposition among the headers of a part: that of the first such header, if it is UTF-8. -/
def disposition? (headers : List Header) : Option Disposition :=
  match headers.find? fun h => Text.sameIgnoringCase h.name "content-disposition" with
  | some h => (Text.Utf8.decode? h.value).map Disposition.ofText
  | none => none

/-- The field that a part contributes: nothing for a file and for a part without a name. -/
def field? (headers : List Header) (content : List UInt8) : Option (String × String) :=
  match disposition? headers with
  | some ⟨some name, false⟩ => some (name, Text.Utf8.decodeLossyString content)
  | _ => none

/-- The first part behind a delimiter, and what follows its end.  `closing` ends a content. -/
def readPart? (closing : List UInt8) :
    List UInt8 → Option ((List Header × List UInt8) × List UInt8)
  | 0x0D :: 0x0A :: s =>
    match HeaderBlock.read? s with
    | none => none
    | some (headers, s) =>
      (Text.findFirst closing s).map fun f => ((headers, f.1), f.2)
  | _ => none

theorem length_lt_of_readPart? {closing s r : List UInt8} {p : List Header × List UInt8}
    (h : readPart? closing s = some (p, r)) : r.length < s.length := by
  unfold readPart? at h
  split at h
  · split at h
    · simp at h
    · rename_i t _ headers u hu
      simp only [Option.map_eq_some_iff, Prod.mk.injEq] at h
      obtain ⟨⟨x, y⟩, hxy, -, rfl⟩ := h
      have h1 := HeaderBlock.length_le_of_readLines? hu
      have h2 := congrArg List.length (Text.findFirst_eq_some hxy)
      simp only [List.length_append] at h2
      simp only [List.length_cons]
      omega
  · simp at h

/-- The fields of the parts behind a delimiter, in the order in which they stand. -/
def fieldsBehind (closing s : List UInt8) : List (String × String) :=
  match _h : readPart? closing s with
  | none => []
  | some ((headers, content), r) =>
    (field? headers content).toList ++ fieldsBehind closing r
termination_by s.length
decreasing_by exact length_lt_of_readPart? _h

/-- The fields of a body, in the order in which they stand. -/
def decodeList (boundary : String) (body : List UInt8) : List (String × String) :=
  let delimiter := 0x2D :: 0x2D :: Text.Utf8.encodeString boundary
  match Text.findFirst delimiter body with
  | some (_, r) => fieldsBehind (0x0D :: 0x0A :: delimiter) r
  | none => []

/-- The fields of a body; of two with one name the later counts. -/
def decode (boundary : String) (body : List UInt8) : Fields :=
  Fields.ofList (decodeList boundary body)

end RouteServer.Multipart
