import RouteServer.Json.Printer
import RouteServer.Text.Utf8

/-
  **Responses** — a status, a content type and bytes.
-/

namespace RouteServer

structure Response where
  status : Nat
  contentType : String
  body : List UInt8
  deriving DecidableEq, Repr

namespace Response

def json (status : Nat) (v : Json) : Response := ⟨status, "application/json", v.toBytes⟩

def html (status : Nat) (page : String) : Response :=
  ⟨status, "text/html; charset=utf-8", Text.Utf8.encodeString page⟩

def text (status : Nat) (s : String) : Response :=
  ⟨status, "text/plain; charset=utf-8", Text.Utf8.encodeString s⟩

/-- An answer that reports an error: a JSON object with its text. -/
def error (status : Nat) (message : String) : Response :=
  json status (Json.object [("error", .str message)])

def bodyText (r : Response) : String := Text.Utf8.decodeLossyString r.body

end Response

end RouteServer
