import RouteServer.Http.Body
import RouteServer.Http.Response
import RouteServer.Proofs.Http.Parameters
import RouteServer.Proofs.Json.RoundTrip

/-
  **JSON bodies there and back** — what a response says in JSON, a request can be sent with.

  A body is read as JSON when the content type begins like that of JSON or is missing.  No such type
  is one of a form: its first letter is already another one, and what follows may be anything.
-/

namespace RouteServer

open Text (asciiLower isBlank)

/-- A content type of JSON: none, or the media type in any case and whatever follows it. -/
def Json.Names (contentType : String) : Prop :=
  contentType = "" ∨ ∃ media parameters, Text.asciiLowerString media = "application/json" ∧
    contentType = media ++ parameters

/-! ### The content type -/

/-- Only a content type that begins with an `m` or a blank can name a boundary. -/
theorem Multipart.boundary?_eq_none {contentType : String} {c : Char} {s : List Char}
    (htype : contentType.toList = c :: s) (hblank : isBlank c = false)
    (hlower : asciiLower c ≠ 'm') (hsemicolon : c ≠ ';') : boundary? contentType = none := by
  obtain ⟨piece, rest, hsplit⟩ := Text.exists_splitOn_cons hsemicolon s
  obtain ⟨t, htrim⟩ := Text.exists_trimBy_cons hblank piece
  rw [boundary?, htype, hsplit]
  simp only [Text.trim, htrim]
  apply if_neg
  intro hform
  exact hlower (List.cons.inj hform).1

theorem Json.ofContentType_of_names {contentType : String} (h : Names contentType) :
    Request.BodyReading.ofContentType contentType = .json := by
  rcases h with rfl | ⟨media, parameters, hmedia, rfl⟩
  · decide +kernel
  · have hlower : (media ++ parameters).toList.map asciiLower =
        "application/json".toList ++ parameters.toList.map asciiLower := by
      rw [String.toList_append, List.map_append, Multipart.map_asciiLower_of_eq hmedia]
    have hboundary : Multipart.boundary? (media ++ parameters) = none := by
      cases htext : (media ++ parameters).toList with
      | nil =>
        rw [htext] at hlower
        cases hlower
      | cons c s =>
        rw [htext, List.map_cons] at hlower
        have hletter : asciiLower c = 'a' := (List.cons.inj hlower).1
        apply Multipart.boundary?_eq_none htext
        · rw [← Multipart.isBlank_asciiLower, hletter]
          decide
        · rw [hletter]
          decide
        · rintro rfl
          cases hletter
    rw [Request.BodyReading.ofContentType, hboundary, hlower]
    rfl

namespace Request

theorem applyBody_json_of_exact {r : Request} {v : Json} (htype : Json.Names r.contentType)
    (h : v.Exact Json.maxDepth) :
    r.applyBody v.toBytes = { r with body := some v, rawBody := v.toBytes } := by
  have hread := h.parseBytes?_toBytes
  have hnothing : Text.Utf8.decode? [] = some [] := Text.Utf8.decode?_encode []
  have hsome : v.toBytes.isEmpty = false := by
    rw [List.isEmpty_eq_false_iff]
    intro hempty
    rw [hempty, Json.parseBytes?, hnothing] at hread
    cases hread
  simp only [applyBody, hsome, Json.ofContentType_of_names htype, hread, Bool.false_eq_true,
    if_false]

/-- **What is answered in JSON can be sent as a body.**  Every value without doubles whose whole
    numbers fit 64 bits and that is nested at most 127 deep is the body of the request that it is
    sent with, and an error is the object with its text and nothing else. -/
theorem applyBody_json {r : Request} (htype : Json.Names r.contentType) (status : Nat) :
    (∀ v, v.Exact Json.maxDepth →
      r.applyBody (Response.json status v).body =
        { r with body := some v, rawBody := (Response.json status v).body }) ∧
    ∀ message, r.applyBody (Response.error status message).body =
      { r with
        body := some (.obj [("error", .str message)])
        rawBody := (Response.error status message).body } := by
  constructor
  · intro v hv
    exact applyBody_json_of_exact htype hv
  · intro message
    have hkeys : ([("error", Json.str message)].map (·.1)).Nodup := List.pairwise_singleton _ _
    have hmember : ∀ f ∈ [("error", Json.str message)], f.2.Exact 126 :=
      List.forall_mem_singleton.2 (.str message)
    exact applyBody_json_of_exact htype (.object hkeys hmember)

/-- Fields out of order, one of them under an empty key, numbers at both ends of their range, and
    texts that need every kind of escape. -/
def note : Json := Json.object [
  ("z", .arr [.int (2 ^ 64 - 1), .int (-2 ^ 63), .arr [], .null, .int 0]),
  ("a\"\\\n", .str "\x01\x1f\x7f/\"\\ü😀"),
  ("", Json.object [("b", .bool false), ("a", Json.object [])])]

theorem note_exact : note.Exact Json.maxDepth := by
  have hnumbers : ∀ v ∈ [Json.int (2 ^ 64 - 1), .int (-2 ^ 63), .arr [], .null, .int 0],
      v.Exact 125 := by
    simp only [List.forall_mem_cons]
    exact ⟨.int (by decide) (by decide), .int (by decide) (by decide), .arr (by simp), .null,
      .int (by decide) (by decide), by simp⟩
  have hinner : ∀ f ∈ [("b", Json.bool false), ("a", Json.object [])], f.2.Exact 125 := by
    simp only [List.forall_mem_cons]
    exact ⟨.bool false, .object (by decide) (by simp), by simp⟩
  apply Json.Exact.object
  · decide +kernel
  · simp only [List.forall_mem_cons]
    exact ⟨.arr hnumbers, .str _, .object (by decide +kernel) hinner, by simp⟩

def noteRequest : Request :=
  { Request.bare .post "/notes" with
    headers := ⟨[("content-type", "Application/JSON; charset=\"utf-8\"")]⟩ }

theorem applyBody_json_note :
    Json.Names noteRequest.contentType ∧ note.Exact Json.maxDepth ∧
      noteRequest.applyBody (Response.json 200 note).body =
        { noteRequest with body := some note, rawBody := (Response.json 200 note).body } ∧
      noteRequest.applyBody (Response.error 500 "a \"b\"\n").body =
        { noteRequest with
          body := some (.obj [("error", .str "a \"b\"\n")])
          rawBody := (Response.error 500 "a \"b\"\n").body } := by
  have hnames : Json.Names noteRequest.contentType :=
    Or.inr ⟨"Application/JSON", "; charset=\"utf-8\"", by decide +kernel, by decide +kernel⟩
  refine ⟨hnames, note_exact, (applyBody_json hnames 200).1 note note_exact, ?_⟩
  exact (applyBody_json hnames 500).2 "a \"b\"\n"

end Request

end RouteServer
