import RouteServer.App.Service
import RouteServer.Http.Body
import RouteServer.Http.Cookie
import RouteServer.Http.HeaderBlock
import RouteServer.Http.Target
import RouteServer.Http.Urlencoded

/-
  **Requests and responses on the wire** — the bytes of HTTP/1.1.

  A request has a line with method, target and version, then headers, then a body that is as long as
  the first `Content-Length` says.  Whatever breaks these rules is not answered: the connection is
  closed, as it is when the service crashes.  A response has a status line, three headers and a
  body.  Content types are written only if they are known; others are written as bytes of no type.
-/

namespace RouteServer.Wire

/-- A request as it was sent. -/
structure Message where
  method : Method
  target : String
  headers : List Header
  body : List UInt8

/-! ### Reading requests -/

/-- The bytes of a target: no control characters, no space. -/
def isTargetByte (b : UInt8) : Bool := 0x20 < b && b != 0x7F

def skipEmptyLines : List UInt8 → List UInt8
  | 0x0A :: r => skipEmptyLines r
  | 0x0D :: 0x0A :: r => skipEmptyLines r
  | s => s

/-- The version at the end of a request line, and the line end. -/
def dropVersion? (s : List UInt8) : Option (List UInt8) :=
  let version := Text.Utf8.encodeString "HTTP/1."
  match Text.stripStart version s with
  | some (b :: r) => if b = 0x30 ∨ b = 0x31 then HeaderBlock.dropLineEnd? r else none
  | _ => none

/-- The method and the target of a request line, and what follows the line. -/
def readLine? (s : List UInt8) : Option (Method × String × List UInt8) :=
  let token := s.takeWhile HeaderBlock.isNameByte
  match Method.ofToken? (HeaderBlock.asciiText token), s.drop token.length with
  | some method, 0x20 :: r =>
    let target := r.takeWhile isTargetByte
    match Text.Utf8.decodeString? target, r.drop target.length with
    | some text, 0x20 :: r =>
      if target.isEmpty then none else (dropVersion? r).map fun r => (method, text, r)
    | _, _ => none
  | _, _ => none

/-- How long the body is; nothing when the header that says so is no number. -/
def bodyLength? (headers : List Header) : Option Nat :=
  match headers.find? fun h => Text.sameIgnoringCase h.name "content-length" with
  | none => some 0
  | some h => (Text.Utf8.decode? h.value).bind (Text.Numeral.unsigned? 10 64)

/-- A request at the front, and what follows it. -/
def read? (s : List UInt8) : Option (Message × List UInt8) :=
  match readLine? (skipEmptyLines s) with
  | none => none
  | some (method, target, r) =>
    match HeaderBlock.read? r with
    | none => none
    | some (headers, r) =>
      match bodyLength? headers with
      | none => none
      | some n =>
        if r.length < n then none
        else some (⟨method, target, headers, r.take n⟩, r.drop n)

/-- The headers by lower-case name, of each name the last. -/
def fieldsOf (headers : List Header) : Fields :=
  Fields.ofList (headers.map fun h =>
    (Text.asciiLowerString h.name, Text.Utf8.decodeLossyString h.value))

def Message.request (m : Message) : Request :=
  let target := Target.ofString m.target
  let headers := fieldsOf m.headers
  let r : Request :=
    { Request.bare m.method target.path with
      query := target.query
      queryParams := Urlencoded.decode (Text.Utf8.encodeString target.query)
      headers
      cookies := Cookie.ofHeaders headers }
  r.applyBody m.body

/-! ### Writing responses -/

def reasons : List (Nat × String) := [
  (200, "OK"), (201, "Created"), (204, "No Content"), (301, "Moved Permanently"), (302, "Found"),
  (304, "Not Modified"), (400, "Bad Request"), (401, "Unauthorized"), (403, "Forbidden"),
  (404, "Not Found"), (405, "Method Not Allowed"), (409, "Conflict"),
  (422, "Unprocessable Entity"), (500, "Internal Server Error"), (501, "Not Implemented"),
  (503, "Service Unavailable")]

def reason (status : Nat) : String :=
  match reasons.find? (·.1 = status) with
  | some e => e.2
  | none =>
    if status < 300 then "OK"
    else if status < 400 then "Redirect"
    else if status < 500 then "Client Error"
    else "Server Error"

/-- The status line.  That of the most common status is a fixed text. -/
def statusLine (status : Nat) : String :=
  if status = 200 then "HTTP/1.1 200 Ok"
  else "HTTP/1.1 " ++ toString status ++ " " ++ reason status

/-- The content types that are written as they are. -/
def knownTypes : List String := [
  "application/json", "text/html; charset=utf-8", "text/plain; charset=utf-8", "text/css",
  "application/javascript", "image/png", "image/jpeg", "image/gif", "image/svg+xml",
  "image/x-icon", "font/woff", "font/woff2", "application/xml"]

def contentTypeLine (contentType : String) : String :=
  "Content-Type: " ++
    (if contentType ∈ knownTypes then contentType else "application/octet-stream")

/-- What a client gets for what it sent. -/
inductive Answer where
  | response (statusLine : String) (headers : List String) (body : List UInt8)
  /-- the connection was closed -/
  | closed
  deriving DecidableEq, Repr

/-- A response as it is sent, its date aside. -/
def Answer.ofResponse (r : Response) : Answer :=
  .response (statusLine r.status)
    ["Server: M", "Content-Length: " ++ toString r.body.length, contentTypeLine r.contentType]
    r.body

def Answer.bytes : Answer → List UInt8
  | .response line headers body =>
    Text.Utf8.encodeString (String.join ((line :: headers).map (· ++ "\r\n")) ++ "\r\n") ++ body
  | .closed => []

/-! ### Serving -/

/-- The answer to a request at the front, and what follows the request.  There is none to a request
    that breaks the rules or is not complete, nor where the service crashes. -/
def answer? (s : Service) (sent : List UInt8) : Option (Answer × List UInt8) :=
  match read? sent with
  | none => none
  | some (m, left) => (s.handle m.request).toOption.map fun r => (.ofResponse r, left)

/-- Answers what was sent, after what was left over before it; a connection that was closed begins
    anew. -/
def serve (s : Service) (left sent : List UInt8) : Answer × List UInt8 :=
  (answer? s (left ++ sent)).getD (.closed, [])

/-- Answers the requests that stand one behind the other, up to one that has no answer.  The number
    bounds the requests. -/
def converse (s : Service) : Nat → List UInt8 → List Answer
  | 0, _ => []
  | n + 1, sent =>
    match answer? s sent with
    | some (answer, left) => answer :: converse s n left
    | none => []

def serveAll (s : Service) (left : List UInt8) : List (List UInt8) → List Answer
  | [] => []
  | sent :: r =>
    let (answer, left) := serve s left sent
    answer :: serveAll s left r

end RouteServer.Wire
