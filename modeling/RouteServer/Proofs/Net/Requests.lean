import RouteServer.Net.Wire
import RouteServer.Proofs.Http.Fields
import RouteServer.Proofs.Http.HeaderLines
import RouteServer.Proofs.Http.Parameters
import RouteServer.Proofs.Http.Urlencoded

/-
  **Requests as they are sent** — what a client writes is what an action is given.

  The bytes of a request are read piece by piece, and each piece ends in front of a byte that it
  cannot hold (`readLine?_print`), so the reader finds the method, the target, the headers and the
  body where the client put them, and leaves what follows (`read?_print`).  A target is then cut at
  its first question mark.  What is behind the mark has no part in the path, so the route depends
  only on what is in front of it, and fields that stand behind it are read like the fields of a form
  in a body: both are `Urlencoded.encode` of the same list.
-/

namespace RouteServer

namespace Wire

/-! ### From bytes to a message -/

/-- What a client sends beside the target. -/
structure Sent where
  method : Method
  lines : List HeaderBlock.Line
  body : List UInt8

namespace Sent

def print (s : Sent) (target : String) : List UInt8 :=
  Text.Utf8.encodeString s.method.token ++ 0x20 :: (Text.Utf8.encodeString target ++
    0x20 :: (Text.Utf8.encodeString "HTTP/1.1" ++ 0x0D :: 0x0A ::
      (s.lines.flatMap HeaderBlock.Line.print ++ 0x0D :: 0x0A :: s.body)))

def message (s : Sent) (target : String) : Message :=
  ⟨s.method, target, s.lines.map HeaderBlock.Line.header, s.body⟩

/-- The method is a token, the header lines can be read, and they say how long the body is. -/
structure WellFormed (s : Sent) : Prop where
  method : isToken s.method.token = true
  lines : ∀ l ∈ s.lines, l.WellFormed
  few : s.lines.length ≤ HeaderBlock.maxLines
  body : bodyLength? (s.lines.map HeaderBlock.Line.header) = some s.body.length

end Sent

/-- Text that can stand in a target. -/
def AcceptedInTarget (s : String) : Prop := ∀ b ∈ Text.Utf8.encodeString s, isTargetByte b = true

variable {s : Sent} {target : String}

theorem AcceptedInTarget.append {a b : String} (ha : AcceptedInTarget a) (hb : AcceptedInTarget b) :
    AcceptedInTarget (a ++ b) := by
  intro byte hbyte
  rw [Text.Utf8.encodeString_append] at hbyte
  rcases List.mem_append.1 hbyte with h | h
  · exact ha byte h
  · exact hb byte h

theorem skipEmptyLines_of_isNameByte {b : UInt8} (h : HeaderBlock.isNameByte b = true)
    (r : List UInt8) : skipEmptyLines (b :: r) = b :: r := by
  unfold skipEmptyLines
  split
  · case h_1 heq =>
    obtain ⟨rfl, -⟩ := List.cons.inj heq
    exact absurd h (by decide)
  · case h_2 heq =>
    obtain ⟨rfl, -⟩ := List.cons.inj heq
    exact absurd h (by decide)
  · rfl

theorem dropVersion?_print (r : List UInt8) :
    dropVersion? (Text.Utf8.encodeString "HTTP/1.1" ++ 0x0D :: 0x0A :: r) = some r := by
  have hversion : Text.Utf8.encodeString "HTTP/1.1" =
      Text.Utf8.encodeString "HTTP/1." ++ [0x31] := by decide +kernel
  have hstrip : Text.stripStart (Text.Utf8.encodeString "HTTP/1.")
      (Text.Utf8.encodeString "HTTP/1.1" ++ 0x0D :: 0x0A :: r) =
        some (0x31 :: 0x0D :: 0x0A :: r) := by
    rw [hversion, List.append_assoc]
    simpa using Text.stripStart_append_append (Text.Utf8.encodeString "HTTP/1.") []
      (0x31 :: 0x0D :: 0x0A :: r)
  simp only [dropVersion?, hstrip]
  rfl

theorem readLine?_print {m : Method} (hm : isToken m.token = true) (hne : target ≠ "")
    (htarget : AcceptedInTarget target) (r : List UInt8) :
    readLine? (Text.Utf8.encodeString m.token ++ 0x20 :: (Text.Utf8.encodeString target ++
      0x20 :: (Text.Utf8.encodeString "HTTP/1.1" ++ 0x0D :: 0x0A :: r))) =
      some (m, target, r) := by
  have htoken := takeWhile_run (HeaderBlock.isNameByte_of_isToken hm)
    (by decide : HeaderBlock.isNameByte 0x20 = false) (Text.Utf8.encodeString target ++
      0x20 :: (Text.Utf8.encodeString "HTTP/1.1" ++ 0x0D :: 0x0A :: r))
  have htext := takeWhile_run htarget (by decide : isTargetByte 0x20 = false)
    (Text.Utf8.encodeString "HTTP/1.1" ++ 0x0D :: 0x0A :: r)
  have hmethod : Method.ofToken? m.token = some m := if_pos hm
  have hfull : (Text.Utf8.encodeString target).isEmpty = false := by
    rw [List.isEmpty_eq_false_iff]
    intro hempty
    apply hne
    have hback := Text.Utf8.decodeString?_encodeString target
    rw [hempty, Text.Utf8.decodeString?, Text.Utf8.decode?] at hback
    exact (Option.some.inj hback).symm
  simp only [readLine?, htoken, List.drop_left, HeaderBlock.asciiText_encodeString hm, hmethod,
    htext, Text.Utf8.decodeString?_encodeString, hfull, dropVersion?_print, Bool.false_eq_true,
    if_false, Option.map_some]

/-- What a client sends is read as it was meant, whatever follows it. -/
theorem read?_print (h : s.WellFormed) (hne : target ≠ "") (htarget : AcceptedInTarget target)
    (rest : List UInt8) : read? (s.print target ++ rest) = some (s.message target, rest) := by
  have hskip : skipEmptyLines (s.print target ++ rest) = s.print target ++ rest := by
    obtain ⟨b, token, htoken, hb⟩ := HeaderBlock.exists_encodeString_eq_cons h.method
    rw [Sent.print, htoken]
    exact skipEmptyLines_of_isNameByte hb _
  have hline : readLine? (s.print target ++ rest) = some (s.method, target,
      s.lines.flatMap HeaderBlock.Line.print ++ 0x0D :: 0x0A :: (s.body ++ rest)) := by
    rw [← readLine?_print h.method hne htarget]
    simp [Sent.print]
  have hheaders : HeaderBlock.read?
      (s.lines.flatMap HeaderBlock.Line.print ++ 0x0D :: 0x0A :: (s.body ++ rest)) =
      some (s.lines.map HeaderBlock.Line.header, s.body ++ rest) :=
    HeaderBlock.readLines?_print h.lines h.few _
  have hlong : ¬ (s.body ++ rest).length < s.body.length := by
    rw [List.length_append]
    omega
  simp only [read?, hskip, hline, hheaders, h.body, hlong, if_false, List.take_left,
    List.drop_left, Sent.message]

end Wire

/-! ### From a message to a request -/

/-- What stands in front of the first question mark. -/
def Target.front (s : String) : List Char := s.toList.takeWhile (· ≠ '?')

theorem Target.ofString_path (s : String) :
    (Target.ofString s).path =
      if (Target.front s).isEmpty then "/" else String.ofList (Target.front s) := by
  have hfront := Text.fst_getD_splitFirst '?' s.toList []
  rw [Target.ofString, Target.front, ← hfront]

theorem Target.ofString_append {path : String} (hne : path ≠ "") (hmark : '?' ∉ path.toList)
    (query : String) : Target.ofString (path ++ "?" ++ query) = ⟨path, query⟩ := by
  have htext : (path ++ "?" ++ query).toList = path.toList ++ '?' :: query.toList := by
    simp [String.toList_append]
  have hfull : path.toList.isEmpty = false := by
    simpa [List.isEmpty_eq_false_iff] using hne
  rw [Target.ofString, htext, Text.splitFirst_append hmark]
  simp only [Option.getD_some, hfull, String.ofList_toList, Bool.false_eq_true, if_false]

/-- A content type of urlencoded fields: the media type in any case, and whatever follows it. -/
def Urlencoded.Names (contentType : String) : Prop :=
  ∃ media parameters, Text.asciiLowerString media = "application/x-www-form-urlencoded" ∧
    contentType = media ++ parameters

theorem Urlencoded.ofContentType_of_names {contentType : String} (h : Names contentType) :
    Request.BodyReading.ofContentType contentType = .urlencoded := by
  obtain ⟨media, parameters, hmedia, rfl⟩ := h
  have hlower : "application/x-www-form-urlencoded".toList.isPrefixOf
      ((media ++ parameters).toList.map Text.asciiLower) = true := by
    rw [String.toList_append, List.map_append, Multipart.map_asciiLower_of_eq hmedia,
      List.isPrefixOf_iff_prefix]
    exact List.prefix_append _ _
  unfold Request.BodyReading.ofContentType
  exact if_pos hlower

/-- A body changes what is known of the body, and nothing else. -/
theorem Request.exists_applyBody_eq (r : Request) (raw : List UInt8) :
    ∃ form body rawBody,
      r.applyBody raw = { r with form := form, body := body, rawBody := rawBody } := by
  unfold Request.applyBody
  split
  · exact ⟨_, _, _, rfl⟩
  · split
    · exact ⟨_, _, _, rfl⟩
    · exact ⟨_, _, _, rfl⟩
    · split
      · exact ⟨_, _, _, rfl⟩
      · exact ⟨_, _, _, rfl⟩
    · exact ⟨_, _, _, rfl⟩

namespace Wire.Message

variable (m : Message)

/-- The request before its body is looked at. -/
def head : Request :=
  { Request.bare m.method (Target.ofString m.target).path with
    query := (Target.ofString m.target).query
    queryParams := Urlencoded.decode (Text.Utf8.encodeString (Target.ofString m.target).query)
    headers := fieldsOf m.headers
    cookies := Cookie.ofHeaders (fieldsOf m.headers) }

theorem exists_request_eq :
    ∃ form body rawBody, m.request = { m.head with form, body, rawBody } :=
  Request.exists_applyBody_eq m.head m.body

/-- What a request has from its target. -/
theorem request_target :
    m.request.path = (Target.ofString m.target).path ∧
    m.request.query = (Target.ofString m.target).query ∧
    m.request.queryParams =
      Urlencoded.decode (Text.Utf8.encodeString (Target.ofString m.target).query) := by
  obtain ⟨form, body, rawBody, h⟩ := m.exists_request_eq
  simp only [h, head, Request.bare, and_self]

theorem request_contentType : m.request.contentType = m.head.contentType := by
  obtain ⟨form, body, rawBody, h⟩ := m.exists_request_eq
  simp only [h, Request.contentType, Request.header?]

variable {m}

/-- A form that was sent is what its bytes say, also when there are none. -/
theorem request_form (h : Urlencoded.Names m.request.contentType) :
    m.request.form = Urlencoded.decode m.body := by
  rw [request_contentType] at h
  have hrequest : m.request = m.head.applyBody m.body := rfl
  rw [hrequest]
  unfold Request.applyBody
  split
  · case isTrue hempty =>
    rw [List.isEmpty_iff.1 hempty]
    rfl
  · rw [Urlencoded.ofContentType_of_names h]

end Wire.Message

/-! ### Fields in a query and in a form -/

namespace Urlencoded

def text (fields : List (String × String)) : String := HeaderBlock.asciiText (encode fields)

theorem encodeString_text (fields : List (String × String)) :
    Text.Utf8.encodeString (text fields) = encode fields := by
  apply HeaderBlock.encodeString_asciiText
  intro b hb
  have hbounds := bounds_of_mem_encode hb
  omega

theorem acceptedInTarget_text (fields : List (String × String)) :
    Wire.AcceptedInTarget (text fields) := by
  intro b hb
  rw [encodeString_text] at hb
  obtain ⟨hlow, hhigh⟩ := bounds_of_mem_encode hb
  have hspace : 0x20 < b := UInt8.lt_iff_toNat_lt.2 hlow
  have hdelete : b ≠ 0x7F := by
    rintro rfl
    exact absurd hhigh (by decide)
  simp [Wire.isTargetByte, hspace, hdelete]

/-- Fields that a client puts behind a question mark, or into the body of a form, reach the action
    as one and the same map, in which each name has the last of its values.  A route is chosen
    without regard to them. -/
theorem fields_carried (fields : List (String × String)) :
    (∃ map : Fields,
      (∀ name value, map.get? name = some value ↔
        ∃ before after, fields = before ++ (name, value) :: after ∧ ∀ f ∈ after, f.1 ≠ name) ∧
      (map.entries.map (·.1)).Nodup ∧
      (∀ path, path ≠ "" → '?' ∉ path.toList → Wire.AcceptedInTarget path →
        (∀ (s : Wire.Sent) (rest : List UInt8), s.WellFormed →
          Wire.read? (s.print (path ++ "?" ++ text fields) ++ rest) =
            some (s.message (path ++ "?" ++ text fields), rest)) ∧
        ∀ m : Wire.Message, m.target = path ++ "?" ++ text fields →
          m.request.path = path ∧ m.request.query = text fields ∧ m.request.queryParams = map) ∧
      ∀ m : Wire.Message, m.body = encode fields → Names m.request.contentType →
        m.request.form = map) ∧
    ∀ (H : Type) (t : Route.Table H) (m n : Wire.Message) (method : Method),
      Target.front m.target = Target.front n.target →
      t.resolve m.request.path method = t.resolve n.request.path method := by
  refine ⟨⟨Fields.ofList fields, fun _ _ => Fields.get?_ofList_eq_some_iff,
    Fields.nodup_names_ofList fields, ?_, ?_⟩, ?_⟩
  · intro path hne hmark hpath
    have hmarkText : Wire.AcceptedInTarget "?" := by
      unfold Wire.AcceptedInTarget
      decide +kernel
    have htarget : Wire.AcceptedInTarget (path ++ "?" ++ text fields) :=
      (hpath.append hmarkText).append (acceptedInTarget_text fields)
    constructor
    · intro s rest hs
      apply Wire.read?_print hs _ htarget
      intro hempty
      have hlength := congrArg String.length hempty
      simp at hlength
    · intro m hm
      have htaken := m.request_target
      rw [hm, Target.ofString_append hne hmark, encodeString_text, decode,
        decodeList_encode] at htaken
      exact htaken
  · intro m hm hnames
    rw [Wire.Message.request_form hnames, hm, decode, decodeList_encode]
  · intro H t m n method hfront
    have hpath : m.request.path = n.request.path := by
      rw [m.request_target.1, n.request_target.1, Target.ofString_path, Target.ofString_path,
        hfront]
    rw [hpath]

/-- A name twice, an empty field, and values that hold the marks between fields. -/
def wishes : List (String × String) := [("größe", "a&b=c +%?"), ("", ""), ("größe", "ü 2")]

/-- The same fields in the body of a form. -/
def wishesForm : Wire.Sent where
  method := .post
  lines := [
    ⟨"Content-Type", Text.Utf8.encodeString " Application/X-WWW-Form-URLEncoded; charset=utf-8"⟩,
    ⟨"Content-Length", Text.Utf8.encodeString "62"⟩]
  body := encode wishes

theorem fields_carried_wishes :
    text wishes = "gr%C3%B6%C3%9Fe=a%26b%3Dc+%2B%25%3F&=&gr%C3%B6%C3%9Fe=%C3%BC+2" ∧
    ∃ m, Wire.read? (wishesForm.print ("/list" ++ "?" ++ text wishes) ++ []) = some (m, []) ∧
      m.request.path = "/list" ∧ m.request.queryParams.get? "größe" = some "ü 2" ∧
      m.request.form = m.request.queryParams := by
  have htext : text wishes = "gr%C3%B6%C3%9Fe=a%26b%3Dc+%2B%25%3F&=&gr%C3%B6%C3%9Fe=%C3%BC+2" := by
    decide +kernel
  have hpath : Wire.AcceptedInTarget "/list" := by
    unfold Wire.AcceptedInTarget
    decide +kernel
  have hform : wishesForm.WellFormed :=
    ⟨by decide +kernel, by decide +kernel, by decide, by decide +kernel⟩
  obtain ⟨⟨map, hvalues, -, hquery, hbody⟩, -⟩ := fields_carried wishes
  obtain ⟨hread, hrequest⟩ := hquery "/list" (by decide) (by decide) hpath
  obtain ⟨hthis, -, hparams⟩ := hrequest (wishesForm.message _) rfl
  have hnames : Names (wishesForm.message ("/list" ++ "?" ++ text wishes)).request.contentType := by
    rw [Wire.Message.request_contentType]
    exact ⟨"Application/X-WWW-Form-URLEncoded", "; charset=utf-8", by decide +kernel,
      by decide +kernel⟩
  refine ⟨htext, _, hread wishesForm [] hform, hthis, ?_, ?_⟩
  · rw [hparams, hvalues]
    exact ⟨wishes.take 2, [], rfl, by simp⟩
  · rw [hparams, hbody _ rfl hnames]

end Urlencoded

end RouteServer
