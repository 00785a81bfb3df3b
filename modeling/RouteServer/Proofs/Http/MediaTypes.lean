import RouteServer.Proofs.Http.Bodies
import RouteServer.Proofs.Net.Requests

/-
  **Media types** — which payloads are decoded, and under which content types.

  A content type names a media type in front of its parameters.  The type of a multipart form is
  compared with that name, but the other two are recognised by how the content type begins.  So a
  payload may be decoded although its media type is another one, whose name is only longer:
  `application/json-seq` is read as JSON.  `Extends` says when a content type is such a one, and
  `decodesDeclared_iff` that these are the only ones for which a payload of another type is decoded.
-/

namespace RouteServer

open Text (asciiLower isBlank trim)

/-! ### What a content type names -/

/-- The media type in front of the parameters, in lower case. -/
def mediaType (contentType : String) : String :=
  String.ofList ((trim (contentType.toList.takeWhile (· ≠ ';'))).map asciiLower)

/-- A content type that begins like a media type and names another one. -/
def Extends (contentType name : String) : Prop :=
  name.toList <+: contentType.toList.map asciiLower ∧ mediaType contentType ≠ name

variable {contentType name : String}

theorem toList_mediaType (contentType : String) :
    (mediaType contentType).toList =
      trim ((contentType.toList.map asciiLower).takeWhile (· ≠ ';')) := by
  have hmark : (fun c => decide (c ≠ ';')) ∘ asciiLower = fun c => decide (c ≠ ';') := by
    funext c
    simp [Text.asciiLower_eq_iff]
  have hblank : isBlank ∘ asciiLower = isBlank := funext Multipart.isBlank_asciiLower
  have htrim : ∀ s, trim (s.map asciiLower) = (trim s).map asciiLower := by
    intro s
    rw [trim, trim, Text.trimBy_map, hblank]
  rw [mediaType, String.toList_ofList, List.takeWhile_map, hmark, htrim]

/-- What a content type begins with is what its media type begins with, unless a parameter or
    padding comes first. -/
theorem prefix_mediaType (h : name.toList <+: contentType.toList.map asciiLower)
    (hname : ∀ c ∈ name.toList, isBlank c = false ∧ c ≠ ';') :
    name.toList <+: (mediaType contentType).toList := by
  rw [toList_mediaType]
  apply Text.prefix_trimBy
  · obtain ⟨rest, hrest⟩ := h
    rw [← hrest, List.takeWhile_append_of_pos fun c hc => decide_eq_true (hname c hc).2]
    exact List.prefix_append _ _
  · exact fun c hc => (hname c hc).1

theorem mediaType_of_boundary? {boundary : String}
    (h : Multipart.boundary? contentType = some boundary) :
    mediaType contentType = "multipart/form-data" := by
  obtain ⟨more, hsplit⟩ := Text.exists_splitOn_eq_cons ';' contentType.toList
  rw [Multipart.boundary?, hsplit] at h
  simp only [] at h
  split at h
  · rename_i hform
    rw [mediaType, hform, String.ofList_toList]
  · cases h

/-! ### The reading that is chosen -/

namespace Request

open BodyReading (ofContentType)

/-- Why a reading is chosen. -/
theorem ofContentType_cases (contentType : String) :
    (ofContentType contentType = .urlencoded ∧
      "application/x-www-form-urlencoded".toList <+: contentType.toList.map asciiLower) ∨
    (∃ boundary, ofContentType contentType = .multipart boundary ∧
      mediaType contentType = "multipart/form-data") ∨
    (ofContentType contentType = .json ∧
      ("application/json".toList <+: contentType.toList.map asciiLower ∨ contentType = "")) ∨
    ofContentType contentType = .opaqueBytes := by
  simp only [ofContentType]
  split
  · rename_i hform
    exact Or.inl ⟨rfl, List.isPrefixOf_iff_prefix.1 hform⟩
  · right
    split
    · rename_i boundary hboundary
      exact Or.inl ⟨boundary, rfl, mediaType_of_boundary? hboundary⟩
    · right
      split
      · rename_i hjson
        rw [Bool.or_eq_true, List.isPrefixOf_iff_prefix, List.isEmpty_iff, List.map_eq_nil_iff,
          String.toList_eq_nil_iff] at hjson
        exact Or.inl ⟨rfl, hjson⟩
      · exact Or.inr rfl

/-- A content type that begins like a media type is that type in some case, and what follows it. -/
theorem exists_eq_append_of_begins (h : name.toList <+: contentType.toList.map asciiLower) :
    ∃ media parameters, Text.asciiLowerString media = name ∧
      contentType = media ++ parameters := by
  obtain ⟨rest, hrest⟩ := h
  obtain ⟨media, parameters, htext, hmedia, -⟩ := List.map_eq_append_iff.1 hrest.symm
  refine ⟨String.ofList media, String.ofList parameters, ?_, ?_⟩
  · rw [Text.asciiLowerString, String.toList_ofList, hmedia, String.ofList_toList]
  · rw [← String.ofList_append, ← htext, String.ofList_toList]

/-! ### What is decoded -/

variable {r : Request} {raw : List UInt8}

theorem applyBody_eq (hraw : raw ≠ []) :
    r.applyBody raw =
      match ofContentType r.contentType with
      | .urlencoded => { r with form := Urlencoded.decode raw, rawBody := raw }
      | .multipart boundary => { r with form := Multipart.decode boundary raw, rawBody := raw }
      | .json => { r with body := (Json.parseBytes? raw).or r.body, rawBody := raw }
      | .opaqueBytes => { r with rawBody := raw } := by
  rw [applyBody, if_neg (by simpa using hraw)]
  cases ofContentType r.contentType with
  | json => cases Json.parseBytes? raw <;> rfl
  | _ => rfl

/-- A payload is decoded only for one of the types that are meant for it, and is kept as bytes for
    all others. -/
structure DecodesDeclared (r : Request) (raw : List UInt8) : Prop where
  form : (r.applyBody raw).form ≠ r.form →
    mediaType r.contentType = "application/x-www-form-urlencoded" ∨
      mediaType r.contentType = "multipart/form-data"
  body : (r.applyBody raw).body ≠ r.body →
    mediaType r.contentType = "application/json" ∨ r.contentType = ""
  bytes : mediaType r.contentType ∉
      ["application/x-www-form-urlencoded", "multipart/form-data", "application/json"] →
    r.contentType ≠ "" → r.applyBody raw = { r with rawBody := raw }

theorem decodesDeclared_of_not_extends (hraw : raw ≠ [])
    (hform : ¬ Extends r.contentType "application/x-www-form-urlencoded")
    (hjson : ¬ Extends r.contentType "application/json") : DecodesDeclared r raw := by
  have hname {name : String} (hbegins : name.toList <+: r.contentType.toList.map asciiLower)
      (hextends : ¬ Extends r.contentType name) : mediaType r.contentType = name := by
    by_contra hother
    exact hextends ⟨hbegins, hother⟩
  have happly := applyBody_eq (r := r) hraw
  rcases ofContentType_cases r.contentType with
    ⟨hreading, hbegins⟩ | ⟨boundary, hreading, htype⟩ | ⟨hreading, hbegins⟩ | hreading
  · -- fields of a form: the JSON value stays as it was
    have htype := hname hbegins hform
    simp only [hreading] at happly
    constructor
    · intro _
      exact Or.inl htype
    · intro hbody
      rw [happly] at hbody
      exact absurd rfl hbody
    · intro hother
      rw [htype] at hother
      simp at hother
  · simp only [hreading] at happly
    constructor
    · intro _
      exact Or.inr htype
    · intro hbody
      rw [happly] at hbody
      exact absurd rfl hbody
    · intro hother
      rw [htype] at hother
      simp at hother
  · -- JSON, or no type at all: the fields stay as they were
    simp only [hreading] at happly
    have htype : mediaType r.contentType = "application/json" ∨ r.contentType = "" := by
      rcases hbegins with hbegins | hempty
      · exact Or.inl (hname hbegins hjson)
      · exact Or.inr hempty
    constructor
    · intro hchanged
      rw [happly] at hchanged
      exact absurd rfl hchanged
    · intro _
      exact htype
    · intro hother hnonempty
      rcases htype with htype | hempty
      · rw [htype] at hother
        simp at hother
      · exact absurd hempty hnonempty
  · simp only [hreading] at happly
    constructor
    · intro hchanged
      rw [happly] at hchanged
      exact absurd rfl hchanged
    · intro hbody
      rw [happly] at hbody
      exact absurd rfl hbody
    · intro _ _
      exact happly

/-- A request without a body that names a content type. -/
def announcing (contentType : String) : Request :=
  { Request.bare .post "/" with headers := ⟨[("content-type", contentType)]⟩ }

theorem contentType_announcing (contentType : String) :
    (announcing contentType).contentType = contentType := by
  simp [announcing, Request.contentType, header?, Fields.getIgnoringCase?, Text.sameIgnoringCase]

theorem not_decodesDeclared_of_extends_urlencoded
    (h : Extends contentType "application/x-www-form-urlencoded") :
    ¬ DecodesDeclared (announcing contentType) [0x61] := by
  intro hdeclared
  obtain ⟨hbegins, hother⟩ := h
  have hreading := Urlencoded.ofContentType_of_names (exists_eq_append_of_begins hbegins)
  have hchanged : ((announcing contentType).applyBody [0x61]).form ≠
      (announcing contentType).form := by
    have hdecode : Urlencoded.decode [0x61] ≠ Fields.empty := by decide +kernel
    rw [applyBody_eq (by decide), contentType_announcing, hreading]
    exact hdecode
  have htypes := hdeclared.form hchanged
  rw [contentType_announcing] at htypes
  rcases htypes with htype | htype
  · exact hother htype
  · have hplain : "application/x-www-form-urlencoded".toList.all
        (fun c => isBlank c = false ∧ c ≠ ';') = true := by decide +kernel
    have hmedia := prefix_mediaType hbegins fun c hc =>
      of_decide_eq_true (List.all_eq_true.1 hplain c hc)
    rw [htype, ← List.isPrefixOf_iff_prefix] at hmedia
    exact absurd hmedia (by decide +kernel)

theorem applyBody_of_prefix_json
    (h : "application/json".toList <+: contentType.toList.map asciiLower) :
    (announcing contentType).applyBody (Json.int 1).toBytes =
      { announcing contentType with body := some (.int 1), rawBody := (Json.int 1).toBytes } := by
  apply applyBody_json_of_exact
  · rw [contentType_announcing]
    exact Or.inr (exists_eq_append_of_begins h)
  · exact .int (by decide) (by decide)

theorem not_decodesDeclared_of_extends_json (h : Extends contentType "application/json") :
    ¬ DecodesDeclared (announcing contentType) (Json.int 1).toBytes := by
  intro hdeclared
  obtain ⟨hbegins, hother⟩ := h
  have hchanged : ((announcing contentType).applyBody (Json.int 1).toBytes).body ≠
      (announcing contentType).body := by
    rw [applyBody_of_prefix_json hbegins]
    exact Option.some_ne_none _
  have htypes := hdeclared.body hchanged
  rw [contentType_announcing] at htypes
  rcases htypes with htype | hempty
  · exact hother htype
  · rw [hempty, ← List.isPrefixOf_iff_prefix] at hbegins
    exact absurd hbegins (by decide +kernel)

/-- **Payloads of other types stay bytes, but for the types that extend a known name.**  For every
    content type, all payloads are decoded only as the media type says, if and only if it is not one
    that merely begins like that of urlencoded fields or of JSON. -/
theorem decodesDeclared_iff (contentType : String) :
    (∀ (r : Request) (raw : List UInt8), r.contentType = contentType → raw ≠ [] →
        DecodesDeclared r raw) ↔
      ¬ Extends contentType "application/x-www-form-urlencoded" ∧
        ¬ Extends contentType "application/json" := by
  constructor
  · intro h
    constructor
    · intro hextends
      exact not_decodesDeclared_of_extends_urlencoded hextends
        (h _ _ (contentType_announcing _) (by decide))
    · intro hextends
      exact not_decodesDeclared_of_extends_json hextends
        (h _ _ (contentType_announcing _) (by decide +kernel))
  · rintro ⟨hform, hjson⟩ r raw rfl hraw
    exact decodesDeclared_of_not_extends hraw hform hjson

/-- A sequence of JSON texts is another type than JSON, and a payload of it is read as JSON. -/
theorem applyBody_json_seq :
    mediaType "application/json-seq" = "application/json-seq" ∧
      (announcing "application/json-seq").applyBody (Json.int 1).toBytes =
        { announcing "application/json-seq" with
          body := some (.int 1)
          rawBody := (Json.int 1).toBytes } ∧
      ¬ DecodesDeclared (announcing "application/json-seq") (Json.int 1).toBytes := by
  have hbegins : "application/json".toList <+: "application/json-seq".toList.map asciiLower := by
    rw [← List.isPrefixOf_iff_prefix]
    decide +kernel
  have htype : mediaType "application/json-seq" = "application/json-seq" := by decide +kernel
  have hother : mediaType "application/json-seq" ≠ "application/json" := by
    rw [htype]
    decide +kernel
  exact ⟨htype, applyBody_of_prefix_json hbegins,
    not_decodesDeclared_of_extends_json ⟨hbegins, hother⟩⟩

end Request

end RouteServer
