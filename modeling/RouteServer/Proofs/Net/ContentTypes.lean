import RouteServer.Net.Wire
import RouteServer.Proofs.App.Handling

/-
  **Written content types** — the line on the wire names the type that the response has.

  A header line names a type only if that is one of the known ones; for all others it says bytes of
  no type.  So the line is true of a response just when its type is known or is that of bytes
  (`contentTypeLine_eq_iff`).  The service has two sources of types: an action and a refusal answer
  with one of three (`ownTypes`), and a static file has the type that the table of extensions gives.
  Every type of either is writable, whatever the file is called.
-/

namespace RouteServer

open Route

namespace Wire

/-- The types that a header line can name. -/
def Writable (contentType : String) : Prop :=
  contentType ∈ knownTypes ∨ contentType = MediaType.other

instance (contentType : String) : Decidable (Writable contentType) :=
  inferInstanceAs (Decidable (_ ∨ _))

variable {contentType : String}

theorem field_injective : Function.Injective ("Content-Type: " ++ ·) := by
  intro a b h
  rw [← String.toList_inj, String.toList_append, String.toList_append] at h
  exact String.toList_inj.1 (List.append_cancel_left h)

theorem contentTypeLine_eq_iff :
    contentTypeLine contentType = "Content-Type: " ++ contentType ↔ Writable contentType := by
  rw [contentTypeLine, field_injective.eq_iff, Writable]
  split
  · rename_i hknown
    exact iff_of_true rfl (Or.inl hknown)
  · rename_i hunknown
    constructor
    · intro hother
      exact Or.inr hother.symm
    · rintro (hknown | hother)
      · exact absurd hknown hunknown
      · exact hother.symm

/-- A type that can be written is not degraded. -/
theorem Writable.line_eq_other_iff (h : Writable contentType) :
    contentTypeLine contentType = "Content-Type: application/octet-stream" ↔
      contentType = MediaType.other := by
  have hother : "Content-Type: application/octet-stream" = "Content-Type: " ++ MediaType.other := by
    decide
  rw [contentTypeLine_eq_iff.2 h, hother]
  exact field_injective.eq_iff

/-- All of a response but its date, with the type on the last line in front of the body. -/
theorem bytes_ofResponse {r : Response} (h : Writable r.contentType) :
    (Answer.ofResponse r).bytes =
      Text.Utf8.encodeString (statusLine r.status ++
        "\r\nServer: M\r\nContent-Length: " ++ toString r.body.length ++
        "\r\nContent-Type: " ++ r.contentType ++ "\r\n\r\n") ++ r.body := by
  rw [Answer.ofResponse, Answer.bytes, contentTypeLine_eq_iff.2 h]
  congr 2
  -- the literals are cut at other places on the two sides, so compare the characters
  rw [← String.toList_inj]
  simp [String.join]

/-- The name of a type does not break the line that it stands in. -/
theorem Writable.not_mem (h : Writable contentType) :
    '\r' ∉ contentType.toList ∧ '\n' ∉ contentType.toList := by
  have hknown : ∀ t ∈ knownTypes, '\r' ∉ t.toList ∧ '\n' ∉ t.toList := by decide
  rcases h with h | rfl
  · exact hknown _ h
  · decide

end Wire

/-! ### Types of static files -/

namespace MediaType

open Wire (Writable)

theorem writable_ofExtension (ext : String) : Writable (ofExtension ext) := by
  have htable : ∀ e ∈ table, Writable e.2 := by decide
  rw [ofExtension]
  cases hfind : table.find? (·.1 = Text.asciiLowerString ext) with
  | none => exact Or.inr rfl
  | some e => exact htable e (List.mem_of_find?_eq_some hfind)

theorem writable_ofPath (path : String) : Writable (ofPath path) := by
  rw [ofPath, ofNames]
  cases (fileName? (FileTree.names path)).bind extension? with
  | none => exact Or.inr rfl
  | some ext => exact writable_ofExtension ext

end MediaType

theorem StaticFiles.writable_of_load {t : FileTree} {base path contentType : String}
    {bytes : List UInt8} (h : load t base path = .ok (bytes, contentType)) :
    Wire.Writable contentType := by
  rw [load] at h
  split at h
  · cases h
  · split at h
    · cases h
      exact MediaType.writable_ofPath _
    · cases h

/-! ### Types of other answers -/

/-- The types of all answers that are no files. -/
def Response.ownTypes : List String :=
  ["application/json", "text/html; charset=utf-8", "text/plain; charset=utf-8"]

namespace Dispatcher

theorem contentType_respond {renderer : View.Renderer} {o : Outcome} {answer : Response}
    (h : respond renderer o = .ok answer) : answer.contentType ∈ Response.ownTypes := by
  cases respond_eq_ok_iff.1 h with
  | view => exact List.mem_cons_of_mem _ List.mem_cons_self
  | text => exact List.mem_cons_of_mem _ (List.mem_cons_of_mem _ List.mem_cons_self)
  | noView | data | badParam | failed | crashed | crashedSilently => exact List.mem_cons_self

theorem contentType_missed (answer : Response) :
    (missed answer).contentType = answer.contentType := by
  rw [missed]
  split <;> rfl

theorem contentType_notFound {d : Dispatcher} {r : Request} {answer : Response}
    (h : d.notFound r = .ok answer) : answer.contentType ∈ Response.ownTypes := by
  cases hresolve : d.routes.resolve d.notFoundRoute .get with
  | ok page =>
    rw [notFound_of_resolve hresolve, Crash.map_eq_ok_iff] at h
    obtain ⟨own, hown, rfl⟩ := h
    rw [contentType_missed]
    exact contentType_respond hown
  | error e =>
    rw [notFound, hresolve] at h
    cases h
    exact List.mem_cons_self

end Dispatcher

namespace Service

open Wire (Writable contentTypeLine)

variable {s : Service} {r : Request} {answer : Response}

theorem contentType_refusal (h : s.refusal r = .ok answer) :
    answer.contentType ∈ Response.ownTypes := by
  rw [refusal] at h
  split at h
  · cases h
    exact List.mem_cons_self
  · exact Dispatcher.contentType_notFound h

/-- The two sources of types: a static file, or one of the own types. -/
theorem contentType_handle_cases (h : s.handle r = .ok answer) :
    answer.contentType ∈ Response.ownTypes ∨
      (∀ found, ¬ s.Resolves r found) ∧ ∃ bytes, s.Offers r bytes answer.contentType := by
  by_cases hresolved : ∃ found, s.Resolves r found
  · obtain ⟨found, hfound⟩ := hresolved
    rw [handle_of_resolves hfound] at h
    exact Or.inl (Dispatcher.contentType_respond h)
  · have hnone := not_exists.1 hresolved
    by_cases hoffered : ∃ bytes contentType, s.Offers r bytes contentType
    · obtain ⟨bytes, contentType, hoffer⟩ := hoffered
      rw [handle_of_offers hnone hoffer] at h
      cases h
      exact Or.inr ⟨hnone, bytes, hoffer⟩
    · rw [handle_of_not_offers hnone fun bytes contentType hoffer =>
        hoffered ⟨bytes, contentType, hoffer⟩] at h
      exact Or.inl (contentType_refusal h)

theorem writable_handle (h : s.handle r = .ok answer) : Writable answer.contentType := by
  have hown : ∀ t ∈ Response.ownTypes, Writable t := by decide
  rcases contentType_handle_cases h with hmem | ⟨-, bytes, -, base, -, hload⟩
  · exact hown _ hmem
  · exact StaticFiles.writable_of_load hload

/-- **The type that is written is the type of the response.**  Whatever the service, its files and
    the request, there is a response unless the renderer breaks off, and the last header that is
    written for it is `Content-Type: ` with the response's own type, on a line of its own.  It says
    bytes of no type only of a response that has this type, and that is always a static file. -/
theorem handle_contentType_written (s : Service) (r : Request) :
    (∀ message, s.handle r = .error message →
      ∃ template context, s.dispatcher.renderer template context = .crashed message) ∧
    ∀ answer, s.handle r = .ok answer →
      (Wire.Answer.ofResponse answer).bytes =
        Text.Utf8.encodeString (Wire.statusLine answer.status ++
          "\r\nServer: M\r\nContent-Length: " ++ toString answer.body.length ++
          "\r\nContent-Type: " ++ answer.contentType ++ "\r\n\r\n") ++ answer.body ∧
      ('\r' ∉ answer.contentType.toList ∧ '\n' ∉ answer.contentType.toList) ∧
      contentTypeLine answer.contentType = "Content-Type: " ++ answer.contentType ∧
      (contentTypeLine answer.contentType = "Content-Type: application/octet-stream" ↔
        answer.contentType = "application/octet-stream") ∧
      (answer.contentType = "application/octet-stream" →
        (∀ found, ¬ s.Resolves r found) ∧
          ∃ bytes, s.Offers r bytes "application/octet-stream") := by
  refine ⟨fun _ => exists_crashed_of_handle, fun answer hanswer => ?_⟩
  have hwritable := writable_handle hanswer
  refine ⟨Wire.bytes_ofResponse hwritable, hwritable.not_mem,
    Wire.contentTypeLine_eq_iff.2 hwritable, hwritable.line_eq_other_iff, fun hother => ?_⟩
  -- none of the own types is that of bytes, so only a file is left
  rcases contentType_handle_cases hanswer with hmem | hfile
  · rw [hother] at hmem
    exact absurd hmem (by decide)
  · rwa [hother] at hfile

/-- Two files, one with its extension in large letters and one without. -/
def fonts : Service where
  dispatcher := App.empty.dispatcher fun _ _ => .page ""
  files := { files := [(["static", "a.WOFF2"], [0x2A]), (["static", "blob"], [0x2A])] }
  staticDir := some "static"

theorem handle_contentType_written_blob :
    fonts.handle (.bare .get "/a.WOFF2") = .ok ⟨200, "font/woff2", [0x2A]⟩ ∧
    contentTypeLine "font/woff2" = "Content-Type: font/woff2" ∧
    fonts.handle (.bare .get "/blob") = .ok ⟨200, "application/octet-stream", [0x2A]⟩ ∧
    contentTypeLine "application/octet-stream" = "Content-Type: application/octet-stream" ∧
    ∃ bytes, fonts.Offers (.bare .get "/blob") bytes "application/octet-stream" := by
  have hunresolved (path : String) : ∀ found, ¬ fonts.Resolves (.bare .get path) found :=
    not_resolves_of_entriesFor_eq_nil rfl
  have hlarge : fonts.handle (.bare .get "/a.WOFF2") = .ok ⟨200, "font/woff2", [0x2A]⟩ :=
    handle_of_offers (hunresolved _) ⟨Or.inl rfl, "static", rfl, by decide +kernel⟩
  have hnone : fonts.handle (.bare .get "/blob") =
      .ok ⟨200, "application/octet-stream", [0x2A]⟩ :=
    handle_of_offers (hunresolved _) ⟨Or.inl rfl, "static", rfl, by decide +kernel⟩
  obtain ⟨-, hwritten⟩ := handle_contentType_written fonts (.bare .get "/a.WOFF2")
  obtain ⟨-, -, hline, -⟩ := hwritten _ hlarge
  obtain ⟨-, hwritten⟩ := handle_contentType_written fonts (.bare .get "/blob")
  obtain ⟨-, -, -, hother, hfile⟩ := hwritten _ hnone
  exact ⟨hlarge, hline, hnone, hother.2 rfl, (hfile rfl).2⟩

end Service

end RouteServer
