import RouteServer.Http.Multipart
import RouteServer.Http.Request
import RouteServer.Http.Urlencoded
import RouteServer.Json.Parser

/-
  **Bodies** — reading the payload of a request by its content type.

  A urlencoded or multipart payload fills the form, and a JSON payload the JSON value; a payload
  without a content type is tried as JSON.  The type is recognised by how it begins, so parameters
  may follow it.  Whatever cannot be read leaves the request as it is: only the bytes are kept.
-/

namespace RouteServer.Request

/-- How a payload is read. -/
inductive BodyReading where
  | urlencoded
  | multipart (boundary : String)
  | json
  /-- as bytes only -/
  | opaqueBytes
  deriving DecidableEq, Repr

def BodyReading.ofContentType (contentType : String) : BodyReading :=
  let lower := contentType.toList.map Text.asciiLower
  if "application/x-www-form-urlencoded".toList.isPrefixOf lower then .urlencoded
  else match Multipart.boundary? contentType with
    | some boundary => .multipart boundary
    | none =>
      if "application/json".toList.isPrefixOf lower || lower.isEmpty then .json else .opaqueBytes

/-- The content type of a request, empty when it has none. -/
def contentType (r : Request) : String := (r.header? "content-type").getD ""

/-- Reads a payload into the request.  An empty payload changes nothing. -/
def applyBody (r : Request) (raw : List UInt8) : Request :=
  if raw.isEmpty then r
  else match BodyReading.ofContentType r.contentType with
    | .urlencoded => { r with form := Urlencoded.decode raw, rawBody := raw }
    | .multipart boundary => { r with form := Multipart.decode boundary raw, rawBody := raw }
    | .json =>
      match Json.parseBytes? raw with
      | some v => { r with body := some v, rawBody := raw }
      | none => { r with rawBody := raw }
    | .opaqueBytes => { r with rawBody := raw }

end RouteServer.Request
