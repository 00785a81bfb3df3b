import RouteServer.Proofs.Action.Outcomes
import RouteServer.Proofs.Demo.Users
import RouteServer.Proofs.Files.Confinement
import RouteServer.Proofs.Text.Utf8
import RouteServer.Proofs.View.Reading
import RouteServer.Proofs.View.Rendering

/-
  **The not-found page** — what the demonstration answers to a path that it does not know.

  A miss looks up the not-found action by its own template, which no other route of the
  demonstration matches.  The action hands the path to a template that has one place for it, and the
  name of the template says that it is markup.  So the page around that place is the same for all
  paths, and the place shows the path and nothing else.
-/

namespace RouteServer

open Route

namespace Demo

/-! ### The route -/

def missingRoute : Registered Action := ⟨.get, "/pagenotfound", reportMissing⟩

/-- The routes that are declared before the not-found action. -/
def namedRoutes (withName : Bool) : List (Registered Action) :=
  [greeting, userRoute, ⟨.get, "/api/user/\x7bid:int\x7d/room/\x7broom_name:str\x7d", showRoom⟩,
    ⟨.get, "/api/echo/\x7bword:str\x7d", echoWord⟩,
    ⟨.get, if withName then "/user/list" else "/list", listUsers⟩,
    ⟨.post, if withName then "/user/save" else "/save", saveUser⟩]

theorem log_series (withName : Bool) :
    App.log (series withName) = namedRoutes withName ++ [missingRoute] := by
  cases withName <;> rfl

theorem captures_missingRoute : missingRoute.entry.pattern.captures "/pagenotfound" = some [] := by
  decide +kernel

/-- No other route matches the template of the not-found action. -/
theorem captures_namedRoutes_eq_none (withName : Bool) :
    ∀ q ∈ namedRoutes withName, q.entry.pattern.captures "/pagenotfound" = none := by
  cases withName <;> decide +kernel

theorem resolve_notFoundRoute (withName : Bool) :
    (application withName).routes.resolve (application withName).notFoundRoute .get =
      .ok ⟨missingRoute.entry, []⟩ := by
  have hroute : (application withName).notFoundRoute = "/pagenotfound" := by
    cases withName <;> rfl
  rw [hroute, application_eq]
  apply (App.follows_declared _).resolve_eq_ok_iff.2
  refine ⟨namedRoutes withName, missingRoute, [], log_series withName,
    ⟨rfl, rfl, captures_missingRoute⟩, ?_⟩
  intro q hq _
  exact captures_namedRoutes_eq_none withName q hq

theorem entriesFor_ne_nil (withName : Bool) {m : Method} (hm : m = .get ∨ m = .post) :
    (application withName).routes.entriesFor m ≠ [] := by
  rw [application_eq, ne_eq, (App.follows_declared _).entriesFor_eq_nil_iff, log_series]
  intro hnone
  rcases hm with rfl | rfl
  · exact hnone missingRoute (by simp) rfl
  · exact hnone ⟨.post, if withName then "/user/save" else "/save", saveUser⟩
      (by simp [namedRoutes]) rfl

/-! ### The page -/

def headLines : List String := [
  "<!doctype html>",
  "<html>",
  "  <head>",
  "    <meta charset=\"utf-8\">",
  "    <title>Page not found</title>",
  "    <link rel=\"stylesheet\" href=\"/site.css\">",
  "  </head>",
  "  <body>",
  "    <h1>Page not found</h1>"]

/-- The page up to the path. -/
def pageFront : String :=
  String.join (headLines.map (· ++ "\n")) ++ "    <p>Nothing is served at <code>"

/-- The page behind the path, up to the last line end. -/
def pageBack : String := "</code>.</p>\n  </body>\n</html>"

/-- The text of the file: the page with an output in the place of the path, and a line end. -/
def pageText : String := pageFront ++ "\x7b\x7b path \x7d\x7d" ++ pageBack ++ "\n"

theorem notFoundPage_eq : notFoundPage = Text.Utf8.encodeString pageText := by
  have hlines : notFoundPage = textOfLines (headLines ++
      ["    <p>Nothing is served at <code>\x7b\x7b path \x7d\x7d</code>.</p>", "  </body>",
        "</html>"]) := rfl
  have htail : String.join (["    <p>Nothing is served at <code>\x7b\x7b path \x7d\x7d</code>.</p>",
      "  </body>", "</html>"].map (· ++ "\n")) =
      "    <p>Nothing is served at <code>" ++ "\x7b\x7b path \x7d\x7d" ++ pageBack ++ "\n" := by
    decide +kernel
  -- the path stands inside of a line, so the text is not cut where the lines are
  rw [hlines, textOfLines, List.map_append, String.join_append, htail, pageText, pageFront]
  simp only [String.append_assoc]

theorem plain_pageFront : View.Token.Plain pageFront.toList := by
  have hlines : ∀ line ∈ headLines.map (· ++ "\n"), '\x7b' ∉ line.toList := by decide +kernel
  have hlast : '\x7b' ∉ "    <p>Nothing is served at <code>".toList := by decide +kernel
  constructor
  · intro hnil
    rw [pageFront, String.toList_append, List.append_eq_nil_iff] at hnil
    exact absurd hnil.2 (by decide)
  · rw [pageFront, String.toList_append, String.toList_join, List.mem_append, List.mem_flatMap]
    rintro (⟨line, hline, hmem⟩ | hmem)
    · exact hlines line hline hmem
    · exact hlast hmem

def pageTemplate : View.Template :=
  ⟨[.text pageFront.toList, .output (.variable "path"), .text pageBack.toList], []⟩

theorem parse_pageText : View.Template.parse pageText.toList = .ok pageTemplate := by
  have hback : View.Token.Plain pageBack.toList := ⟨by decide, by decide +kernel⟩
  have hname : View.Token.IsName "path".toList :=
    ⟨⟨'p', _, rfl, by decide⟩, List.all_eq_true.1 (by decide)⟩
  have hparse := View.Template.parse_output plain_pageFront hname (by decide) hback
    (by decide +kernel)
  rw [pageTemplate, ← String.ofList_toList (s := "path"), ← hparse, pageText]
  apply congrArg View.Template.parse
  simp only [String.toList_append]
  simp

theorem ofDirectory_pagenotfound {files : FileTree} {base : String}
    (h : files.read (FileTree.push base "pagenotfound.html") = .ok notFoundPage) :
    View.Library.ofDirectory files base "pagenotfound.html" = .ok pageTemplate := by
  have hnames : FileTree.names "pagenotfound.html" = ["pagenotfound.html"] := by decide +kernel
  have hfile : FileTree.below? base "pagenotfound.html" =
      some (FileTree.push base "pagenotfound.html") := by
    rw [FileTree.below?, hnames]
    rfl
  have htext : Text.Utf8.decode? notFoundPage = some pageText.toList := by
    rw [notFoundPage_eq]
    exact Text.Utf8.decode?_encode _
  rw [View.Library.ofDirectory_of_read hfile h htext, parse_pageText]

def missingPage (path : String) : String :=
  pageFront ++ String.ofList (View.escape path.toList) ++ pageBack

theorem render_pageTemplate (library : View.Library) (path : String) :
    pageTemplate.render library "pagenotfound.html" (Json.object [("path", .str path)]) =
      .ok (missingPage path).toList := by
  have hescapes : View.Template.escapes "pagenotfound.html" = true := by decide +kernel
  have hwrites : List.Forall₂
      (View.Writes ⟨Json.object [("path", .str path)], [], true, none, false⟩) pageTemplate.body
      [pageFront.toList, View.escape path.toList, pageBack.toList] :=
    .cons (.text _) (.cons (.output "path") (.cons (.text _) .nil))
  rw [← hescapes] at hwrites
  rw [View.Template.render_of_writes hwrites, missingPage]
  simp

/-! ### The answer -/

/-- The template directory holds the page. -/
def HoldsPage (settings : Settings) (tree : FileTree) : Prop :=
  tree.read (FileTree.push settings.templateDir "pagenotfound.html") = .ok notFoundPage

/-- A GET or a POST that neither a route nor a static file answers. -/
structure Missed (s : Service) (r : Request) : Prop where
  method : r.method = .get ∨ r.method = .post
  unresolved : ∀ found, ¬ s.Resolves r found
  unoffered : ∀ bytes contentType, ¬ s.Offers r bytes contentType

variable {withName : Bool} {texts : View.ErrorTexts} {settings : Settings} {tree : FileTree}
  {r : Request}

theorem respond_reportMissing (hpage : HoldsPage settings tree) (params : PathParams) :
    Dispatcher.respond (.ofLibrary texts (.ofDirectory tree settings.templateDir))
      (reportMissing r params) = .ok (Response.html 200 (missingPage r.path)) := by
  have hrender : View.Renderer.ofLibrary texts (.ofDirectory tree settings.templateDir)
      "pagenotfound.html" (Json.object [("path", .str r.path)]) = .page (missingPage r.path) := by
    simp only [View.Renderer.ofLibrary, ofDirectory_pagenotfound hpage, render_pageTemplate,
      String.ofList_toList]
  simp only [reportMissing, Dispatcher.respond, Dispatcher.respondResult, hrender]

theorem handle_of_missed (hpage : HoldsPage settings tree)
    (h : Missed ((application withName).service texts settings tree) r) :
    ((application withName).service texts settings tree).handle r =
      .ok (Response.html 404 (missingPage r.path)) := by
  have hresolve : ((application withName).service texts settings tree).dispatcher.routes.resolve
      ((application withName).service texts settings tree).dispatcher.notFoundRoute .get =
        .ok ⟨missingRoute.entry, []⟩ := resolve_notFoundRoute withName
  have hrun : ((application withName).service texts settings tree).dispatcher.run
      ⟨missingRoute.entry, []⟩ r = .ok (Response.html 200 (missingPage r.path)) :=
    respond_reportMissing hpage (Dispatcher.paramsOf ⟨missingRoute.entry, []⟩)
  have hentries : ((application withName).service texts settings tree).dispatcher.routes.entriesFor
      r.method ≠ [] := entriesFor_ne_nil withName h.method
  -- the not-found action is looked up by its own template, whatever path was asked for
  rw [Service.handle_of_not_offers h.unresolved h.unoffered, Service.refusal, if_neg hentries,
    Dispatcher.notFound_of_resolve hresolve, hrun]
  rfl

theorem missingPage_injective : Function.Injective missingPage := by
  intro path other heq
  simp only [missingPage, ← String.toList_inj, String.toList_append, String.toList_ofList] at heq
  have hescaped := List.append_cancel_left (List.append_cancel_right heq)
  exact String.toList_inj.1 (View.escape_injective hescaped)

/-- **A path that is not found is shown as it is.**  The answer is the page with the path escaped in
    its one place, wherever the controller is mounted and whatever other files there are; the line
    end at the end of the file is no part of it.  No markup comes from the path, reading the
    references back gives the path, and two paths never have the same page. -/
theorem handle_missed (withName : Bool) (texts : View.ErrorTexts) (settings : Settings)
    (tree : FileTree) (hpage : HoldsPage settings tree) (r : Request)
    (h : Missed ((application withName).service texts settings tree) r) :
    ((application withName).service texts settings tree).handle r =
      .ok ⟨404, "text/html; charset=utf-8", Text.Utf8.encodeString
        (pageFront ++ String.ofList (View.escape r.path.toList) ++ pageBack)⟩ ∧
    notFoundPage = Text.Utf8.encodeString
      (pageFront ++ "\x7b\x7b path \x7d\x7d" ++ pageBack ++ "\n") ∧
    (∀ c ∈ ['<', '>', '"', '\''], c ∉ View.escape r.path.toList) ∧
    View.unescape (View.escape r.path.toList) = r.path.toList ∧
    ∀ other, Missed ((application withName).service texts settings tree) other →
      other.path ≠ r.path →
        (((application withName).service texts settings tree).handle other).map (·.body) ≠
          (((application withName).service texts settings tree).handle r).map (·.body) := by
  refine ⟨handle_of_missed hpage h, notFoundPage_eq, ?_, View.unescape_escape _, ?_⟩
  · have hmarks : ['<', '>', '"', '\''] ⊆ ['<', '>', '"', '\'', '/'] := by decide
    intro c hc
    exact View.not_mem_escape (hmarks hc) _
  · intro other hother hne heq
    rw [handle_of_missed hpage h, handle_of_missed hpage hother] at heq
    have hpages := congrArg Text.Utf8.decodeString? (Except.ok.inj heq)
    simp only [Response.html, Text.Utf8.decodeString?_encodeString, Option.some.injEq] at hpages
    exact hne (missingPage_injective hpages)

/-- The places of the files, below a current directory that no path can name. -/
theorem files_eq : files = ⟨[(["\x00", "templates", "index.html"], indexPage),
    (["\x00", "templates", "pagenotfound.html"], notFoundPage),
    (["\x00", "static", "site.css"], styleSheet)], ["\x00"]⟩ := by
  have hindex : FileTree.names "templates/index.html" = ["templates", "index.html"] := by
    decide +kernel
  have hpage : FileTree.names "templates/pagenotfound.html" =
      ["templates", "pagenotfound.html"] := by
    decide +kernel
  have hstyle : FileTree.names "static/site.css" = ["static", "site.css"] := by decide +kernel
  simp only [files, FileTree.ofFiles, List.map_cons, List.map_nil, hindex, hpage, hstyle]
  rfl

theorem holdsPage_standard : HoldsPage .standard files := by
  have hpath : FileTree.push Settings.standard.templateDir "pagenotfound.html" =
      "templates/pagenotfound.html" := by
    decide +kernel
  have hnames : FileTree.names "templates/pagenotfound.html" =
      ["templates", "pagenotfound.html"] := by
    decide +kernel
  have hstart : FileTree.startFrom ["\x00"] "templates/pagenotfound.html" = ["\x00"] := by rfl
  rw [HoldsPage, hpath, FileTree.read_eq_ok_iff, files_eq]
  generalize indexPage = index, notFoundPage = page, styleSheet = style
  refine ⟨⟨by decide +kernel, by decide, by decide⟩, ?_, ?_⟩
  · rw [FileTree.Passable, hnames, hstart]
    exact ⟨⟨rfl, by decide⟩, ⟨rfl, by decide⟩, trivial⟩
  · rw [FileTree.placeOf, hnames, hstart]
    rfl

/-- Markup under GET, and the path of a file under POST. -/
theorem handle_missed_markup :
    HoldsPage .standard files ∧
    Missed ((application true).service nameOnly .standard files) (.bare .get "/<b id=\"x\">'&lt;") ∧
    Missed ((application true).service nameOnly .standard files) (.bare .post "/site.css") ∧
    ((application true).service nameOnly .standard files).handle
        (.bare .get "/<b id=\"x\">'&lt;") =
      .ok ⟨404, "text/html; charset=utf-8", Text.Utf8.encodeString
        (pageFront ++ "&#x2f;&lt;b id=&quot;x&quot;&gt;&#x27;&amp;lt;" ++ pageBack)⟩ ∧
    (((application true).service nameOnly .standard files).handle
        (.bare .post "/site.css")).map (·.body) ≠
      (((application true).service nameOnly .standard files).handle
        (.bare .get "/<b id=\"x\">'&lt;")).map (·.body) := by
  have hunresolved {r : Request}
      (h : ((application true).routes.resolve r.path r.method).toOption.isNone = true) :
      ∀ found, ¬ ((application true).service nameOnly .standard files).Resolves r found := by
    intro found hfound
    have hresolve : (application true).routes.resolve r.path r.method = .ok found := hfound
    rw [hresolve] at h
    cases h
  have hmarkup : Missed ((application true).service nameOnly .standard files)
      (.bare .get "/<b id=\"x\">'&lt;") :=
    ⟨Or.inl rfl, hunresolved (by decide +kernel),
      Service.staticFile?_eq_none_iff.1 (by decide +kernel)⟩
  have hfile :
      Missed ((application true).service nameOnly .standard files) (.bare .post "/site.css") :=
    ⟨Or.inr rfl, hunresolved (by decide +kernel),
      Service.staticFile?_eq_none_iff.1 (by decide +kernel)⟩
  obtain ⟨hanswer, -, -, -, hdiffer⟩ :=
    handle_missed true nameOnly .standard files holdsPage_standard _ hmarkup
  refine ⟨holdsPage_standard, hmarkup, hfile, ?_, hdiffer _ hfile (by decide)⟩
  rw [hanswer]
  rfl

end Demo

end RouteServer
