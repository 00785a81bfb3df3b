import RouteServer.App.Launch
import RouteServer.Demo.Application
import RouteServer.Demo.Files
import RouteServer.Proofs.Action.Parameters
import RouteServer.Proofs.App.Handling
import RouteServer.Proofs.Json.Printer
import RouteServer.Proofs.Route.OwnText

/-
  **The endpoint of a user** — what the demonstration answers to an id, whatever digits it is
  written in.

  The route captures all digits behind `/api/user/`, with or without a slash behind them, and no
  other cut of the path is possible.  The action then reads the value of the digits, however many
  there are, and the answers are given here as the bytes that are sent.
-/

namespace RouteServer

open Route

/-! ### The users -/

namespace Demo

theorem get?_generate (count n : Nat) :
    (Users.generate count).get? n = if 1 ≤ n ∧ n ≤ count then some (User.ofNumber n) else none := by
  have hid (i : Nat) : (User.ofNumber (i + 1)).id = n ↔ i + 1 = n := Int.ofNat_inj
  rw [Users.get?, Users.generate, List.find?_map]
  by_cases hn : 1 ≤ n ∧ n ≤ count
  · have hfound : (List.range count).find? ((fun u : User => decide (u.id = n)) ∘
        fun i => User.ofNumber (i + 1)) = some (n - 1) := by
      apply List.find?_range_eq_some.2
      simp only [Function.comp_apply, hid, decide_eq_true_eq, List.mem_range, Bool.not_eq_true',
        decide_eq_false_iff_not]
      exact ⟨by omega, by omega, fun j hj => by omega⟩
    rw [hfound, if_pos hn, Option.map_some, Nat.sub_add_cancel hn.1]
  · have hnone : (List.range count).find? ((fun u : User => decide (u.id = n)) ∘
        fun i => User.ofNumber (i + 1)) = none := by
      apply List.find?_eq_none.2
      intro i hi
      rw [List.mem_range] at hi
      simp only [Function.comp_apply, hid, decide_eq_true_eq]
      omega
    rw [hnone, if_neg hn, Option.map_none]

/-! ### The route -/

/-- The declarations of the demonstration, in order. -/
def series (withName : Bool) : List Declaration := [
  .route [.get] "/" greet,
  .route [.get] "/api/user/\x7bid:int\x7d" showUser,
  .route [.get] "/api/user/\x7bid:int\x7d/room/\x7broom_name:str\x7d" showRoom,
  .route [.get] "/api/echo/\x7bword:str\x7d" echoWord,
  .mount userController withName,
  .pageNotFound defaultNotFoundRoute reportMissing]

theorem application_eq (withName : Bool) : application withName = App.declared (series withName) :=
  rfl

def greeting : Registered Action := ⟨.get, "/", greet⟩

def userRoute : Registered Action := ⟨.get, "/api/user/\x7bid:int\x7d", showUser⟩

theorem exists_log_eq (withName : Bool) :
    ∃ rest, App.log (series withName) = greeting :: userRoute :: rest := ⟨_, rfl⟩

theorem segments_userRoute :
    userRoute.entry.pattern.segments = [.literal "/api/user/", .capture ⟨"id", .int⟩] := by
  decide +kernel

theorem captures_greeting_eq_none (rest : String) :
    greeting.entry.pattern.captures ("/api/user/" ++ rest) = none := by
  have hplain : greeting.entry.pattern.params = [] := by decide +kernel
  have htemplate : greeting.entry.pattern.template = "/" := by decide +kernel
  rw [← Option.not_isSome_iff_eq_none, Pattern.isSome_captures_iff_of_plain rfl hplain, htemplate]
  -- the second character of the path is no slash
  rintro (heq | heq)
  · rw [← String.toList_inj, String.toList_append] at heq
    cases heq
  · rw [← String.toList_inj, String.toList_append] at heq
    cases heq

variable {digits slash : String}

theorem captures_userRoute (hdigits : ∀ c ∈ digits.toList, c.isDigit = true)
    (hslash : slash = "" ∨ slash = "/") :
    userRoute.entry.pattern.captures ("/api/user/" ++ digits ++ slash) = some [digits] := by
  have hend : slash.toList = [] ∨ slash.toList = ['/'] := by
    rcases hslash with rfl | rfl
    · exact Or.inl rfl
    · exact Or.inr rfl
  have hcaptures : (⟨"id", .int⟩ : Placeholder).kind.Captures digits.toList := ⟨hdigits, nofun⟩
  rw [Pattern.captures_eq_some_iff, segments_userRoute, String.toList_append, String.toList_append,
    List.append_assoc]
  exact preferred_literal_capture hcaptures hend

theorem resolve_user (withName : Bool) (hdigits : ∀ c ∈ digits.toList, c.isDigit = true)
    (hslash : slash = "" ∨ slash = "/") :
    (application withName).routes.resolve ("/api/user/" ++ digits ++ slash) .get =
      .ok ⟨userRoute.entry, [digits]⟩ := by
  obtain ⟨rest, hlog⟩ := exists_log_eq withName
  rw [application_eq]
  refine (App.follows_declared _).resolve_eq_ok_iff.2
    ⟨[greeting], userRoute, rest, hlog, ⟨rfl, rfl, captures_userRoute hdigits hslash⟩, ?_⟩
  intro q hq _
  obtain rfl := List.mem_singleton.1 hq
  rw [String.append_assoc]
  exact captures_greeting_eq_none _

/-! ### The answers -/

/-- The user with a number, as it is sent. -/
def userText (n : Nat) : String :=
  "\x7b\"email\":\"user" ++ toString n ++ "@example.com\",\"id\":" ++ toString n ++
    ",\"name\":\"user" ++ toString n ++ "\"\x7d"

/-- An error, as it is sent. -/
def errorText (message : String) : String := "\x7b\"error\":\"" ++ message ++ "\"\x7d"

theorem toJson_ofNumber (n : Nat) :
    (User.ofNumber n).toJson =
      .obj [("email", .str ("user" ++ toString n ++ "@example.com")), ("id", .int n),
        ("name", .str ("user" ++ toString n))] := by
  have hid : ¬ "email" = "id" ∧ "email" < "id" := by decide +kernel
  have hname : ¬ "name" = "id" ∧ ¬ "name" < "id" := by decide +kernel
  simp only [User.toJson, User.ofNumber, Json.object, Json.insertField, List.foldl_cons,
    List.foldl_nil, hid, hname, if_true, if_false]

theorem toBytes_ofNumber (n : Nat) :
    (User.ofNumber n).toJson.toBytes = Text.Utf8.encodeString (userText n) := by
  have hname : Json.Unescaped ("user" ++ toString n).toList := by
    rw [String.toList_append]
    exact (by decide : Json.Unescaped "user".toList).append (Json.unescaped_toString n)
  have hemail : Json.Unescaped ("user" ++ toString n ++ "@example.com").toList := by
    rw [String.toList_append]
    exact hname.append (by decide)
  have hprint := Json.print_obj (Json.printFields_cons (by decide : Json.Unescaped "email".toList)
    (Json.print_str_of_unescaped hemail)
    (Json.printFields_cons (by decide : Json.Unescaped "id".toList) (Json.print_natCast n)
      (Json.printFields_single (by decide : Json.Unescaped "name".toList)
        (Json.print_str_of_unescaped hname))))
  rw [toJson_ofNumber, Json.toBytes_eq_encodeString hprint]
  apply congrArg Text.Utf8.encodeString
  unfold userText
  rw [← String.toList_inj]
  simp only [String.toList_append]
  simp

theorem toBytes_error {message : String} (h : Json.Unescaped message.toList) :
    (Json.object [("error", .str message)]).toBytes =
      Text.Utf8.encodeString (errorText message) := by
  have hprint := Json.print_obj (Json.printFields_single (by decide : Json.Unescaped "error".toList)
    (Json.print_str_of_unescaped h))
  have hobject : Json.object [("error", .str message)] = .obj [("error", .str message)] := rfl
  rw [hobject, Json.toBytes_eq_encodeString hprint]
  apply congrArg Text.Utf8.encodeString
  unfold errorText
  rw [← String.toList_inj]
  simp only [String.toList_append]
  simp

theorem params_user (digits : String) :
    Dispatcher.paramsOf ⟨userRoute.entry, [digits]⟩ = ⟨[digits], [⟨"id", .int⟩]⟩ := by
  have hparams : userRoute.entry.pattern.params = [⟨"id", .int⟩] := by
    rw [Pattern.params, segments_userRoute]
    rfl
  rw [Dispatcher.paramsOf, hparams]

theorem int_user (hdigits : ∀ c ∈ digits.toList, c.isDigit = true) :
    PathParams.int ⟨[digits], [⟨"id", .int⟩]⟩ 0 =
      if digits ≠ "" ∧ Text.Numeral.decimalValue digits.toList ≤ 2 ^ 63 - 1 then
        .ok (Text.Numeral.decimalValue digits.toList : Int)
      else .error (.notAnInteger "id" digits) := by
  have hspec : (⟨[digits], [⟨"id", .int⟩]⟩ : PathParams).specs[0]? = some ⟨"id", .int⟩ := rfl
  exact PathParams.int_eq_of_digits rfl hspec hdigits

/-- What the action of the route answers, given the value of the id. -/
theorem respond_showUser {params : PathParams} {n : Nat} (hn : params.int 0 = .ok (n : Int))
    (renderer : View.Renderer) (r : Request) :
    Dispatcher.respond renderer (showUser r params) =
      if 1 ≤ n ∧ n ≤ 100 then
        .ok ⟨200, "application/json", Text.Utf8.encodeString (userText n)⟩
      else .ok ⟨404, "application/json",
        Text.Utf8.encodeString (errorText ("user " ++ toString n ++ " not found"))⟩ := by
  simp only [showUser, hn, users, get?_generate]
  by_cases hrange : 1 ≤ n ∧ n ≤ 100
  · rw [if_pos hrange, if_pos hrange, ← toBytes_ofNumber]
    rfl
  · have hmessage : Json.Unescaped ("user " ++ toString n ++ " not found").toList := by
      rw [String.toList_append, String.toList_append]
      exact ((by decide : Json.Unescaped "user ".toList).append (Json.unescaped_toString n)).append
        (by decide)
    rw [if_neg hrange, if_neg hrange, ← toBytes_error hmessage]
    rfl

theorem respond_showUser_of_error {params : PathParams}
    (hdigits : ∀ c ∈ digits.toList, c.isDigit = true)
    (herror : params.int 0 = .error (.notAnInteger "id" digits)) (renderer : View.Renderer)
    (r : Request) :
    Dispatcher.respond renderer (showUser r params) =
      .ok ⟨400, "application/json", Text.Utf8.encodeString
        (errorText ("path parameter 'id' is not an integer: '" ++ digits ++ "'"))⟩ := by
  have hmessage : Json.Unescaped
      ("path parameter 'id' is not an integer: '" ++ digits ++ "'").toList := by
    rw [String.toList_append, String.toList_append]
    exact ((by decide : Json.Unescaped "path parameter 'id' is not an integer: '".toList).append
      (Json.unescaped_of_digits hdigits)).append (by decide)
  rw [showUser, herror, ← toBytes_error hmessage]
  rfl

/-- **Every text of digits has its answer**, with a slash behind it or not, wherever the controller
    is mounted and whatever the settings: the user with that number, or that there is none, or that
    the digits are no number of 64 bits. -/
theorem handle_user (withName : Bool) (texts : View.ErrorTexts) (settings : Settings)
    (files : FileTree) (r : Request) (digits slash : String)
    (hdigits : ∀ c ∈ digits.toList, c.isDigit = true)
    (hslash : slash = "" ∨ slash = "/") (hmethod : r.method = .get)
    (hpath : r.path = "/api/user/" ++ digits ++ slash) (n : Nat)
    (hn : n = Text.Numeral.decimalValue digits.toList) :
    (1 ≤ n → n ≤ 100 → ((application withName).service texts settings files).handle r =
      .ok ⟨200, "application/json", Text.Utf8.encodeString (userText n)⟩) ∧
    (digits ≠ "" → n = 0 ∨ 101 ≤ n → n ≤ 2 ^ 63 - 1 →
      ((application withName).service texts settings files).handle r =
        .ok ⟨404, "application/json",
          Text.Utf8.encodeString (errorText ("user " ++ toString n ++ " not found"))⟩) ∧
    (digits = "" ∨ 2 ^ 63 - 1 < n → ((application withName).service texts settings files).handle r =
      .ok ⟨400, "application/json", Text.Utf8.encodeString
        (errorText ("path parameter 'id' is not an integer: '" ++ digits ++ "'"))⟩) := by
  have hresolves : ((application withName).service texts settings files).Resolves r
      ⟨userRoute.entry, [digits]⟩ := by
    rw [Service.Resolves, hmethod, hpath]
    exact resolve_user withName hdigits hslash
  have hint := int_user hdigits
  rw [← hn] at hint
  rw [Service.handle_of_resolves hresolves, Dispatcher.run, params_user]
  have hread (hempty : digits ≠ "") (hfits : n ≤ 2 ^ 63 - 1) := hint.trans (if_pos ⟨hempty, hfits⟩)
  refine ⟨?_, ?_, ?_⟩
  · intro hone hlast
    have hempty : digits ≠ "" := by
      rintro rfl
      exact absurd (hn ▸ hone) (by decide)
    exact (respond_showUser (hread hempty (by omega)) _ r).trans (if_pos ⟨hone, hlast⟩)
  · intro hempty hrange hfits
    exact (respond_showUser (hread hempty hfits) _ r).trans (if_neg (by omega))
  · intro hunread
    refine respond_showUser_of_error hdigits (hint.trans (if_neg ?_)) _ r
    rintro ⟨hempty, hfits⟩
    rcases hunread with hunread | hunread
    · exact hempty hunread
    · omega

/-- The words of an engine that names the template and says no more. -/
def nameOnly : View.ErrorTexts := fun name _ _ => name

/-- Leading zeros do not count, and the least number that does not fit is not taken for another. -/
theorem handle_user_edges :
    (∀ c ∈ "007".toList, c.isDigit = true) ∧
    ((application true).service nameOnly .standard files).handle (.bare .get "/api/user/007/") =
      .ok ⟨200, "application/json", Text.Utf8.encodeString
        "\x7b\"email\":\"user7@example.com\",\"id\":7,\"name\":\"user7\"\x7d"⟩ ∧
    (∀ c ∈ "9223372036854775808".toList, c.isDigit = true) ∧
    ((application false).service nameOnly .standard files).handle
        (.bare .get "/api/user/9223372036854775808") =
      .ok ⟨400, "application/json", Text.Utf8.encodeString (errorText
        "path parameter 'id' is not an integer: '9223372036854775808'")⟩ := by
  have hseven : ∀ c ∈ "007".toList, c.isDigit = true :=
    List.all_eq_true.1 (by decide)
  have hgreat : ∀ c ∈ "9223372036854775808".toList, c.isDigit = true :=
    List.all_eq_true.1 (by decide)
  obtain ⟨huser, -, -⟩ := handle_user true nameOnly .standard files
    (.bare .get "/api/user/007/") "007" "/" hseven (Or.inr rfl) rfl (by decide) 7
    (by decide +kernel)
  obtain ⟨-, -, hrefused⟩ := handle_user false nameOnly .standard files
    (.bare .get "/api/user/9223372036854775808") "9223372036854775808" "" hgreat (Or.inl rfl) rfl
    (by decide) (2 ^ 63) (by decide +kernel)
  exact ⟨hseven, huser (by decide) (by decide), hgreat, hrefused (Or.inr (by decide))⟩

end Demo

end RouteServer
