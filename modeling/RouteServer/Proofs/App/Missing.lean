import RouteServer.Proofs.Action.Outcomes
import RouteServer.Proofs.App.Handling
import RouteServer.Proofs.Route.OwnText

/-
  **The missing page** — which action answers a request that no route matches.

  The not-found action is a route under GET, and a miss looks it up by its own template, as if that
  were the path of a request.  So the first registration under GET that matches this text is run,
  whatever it was declared for, and without one the answer is the plain one (`notFound_cases`).

  Two things have to hold for this to be the declared action.  The template must match its own text,
  which it does only without placeholders.  And no other template that matches this text may be
  registered in front of it.  Each has a theorem here for the applications where it holds, and a
  counterexample among those where it does not.
-/

namespace RouteServer

open Route

namespace App

/-- A registration under GET matches the text of the not-found route. -/
def MatchesNotFound (ds : List Declaration) (reg : Registered Action) : Prop :=
  reg.method = .get ∧ (reg.entry.pattern.captures (declared ds).notFoundRoute).isSome = true

/-- A miss runs the first registration that matches the text of the not-found route, and is answered
    plainly when there is none. -/
theorem notFound_cases (ds : List Declaration) (renderer : View.Renderer) :
    (∃ earlier reg later, log ds = earlier ++ reg :: later ∧ MatchesNotFound ds reg ∧
      (∀ q ∈ earlier, ¬ MatchesNotFound ds q) ∧ ∃ values,
        reg.entry.pattern.captures (declared ds).notFoundRoute = some values ∧
        ∀ r, ((declared ds).dispatcher renderer).notFound r =
          (((declared ds).dispatcher renderer).run ⟨reg.entry, values⟩ r).map
            Dispatcher.missed) ∨
    ((∀ reg ∈ log ds, ¬ MatchesNotFound ds reg) ∧
      ∀ r, ((declared ds).dispatcher renderer).notFound r =
        .ok (Dispatcher.plainNotFound r)) := by
  have hlog := follows_declared ds
  have hunmatched {reg : Registered Action}
      (h : reg.method = .get →
        reg.entry.pattern.captures (declared ds).notFoundRoute = none) :
      ¬ MatchesNotFound ds reg := by
    rintro ⟨hget, hsome⟩
    rw [h hget] at hsome
    cases hsome
  cases hresolve : (declared ds).routes.resolve (declared ds).notFoundRoute .get with
  | ok found =>
    obtain ⟨earlier, reg, later, hsplit, ⟨hget, hentry, hvalues⟩, hearlier⟩ :=
      hlog.resolve_eq_ok_iff.1 hresolve
    refine Or.inl ⟨earlier, reg, later, hsplit, ⟨hget, by rw [hvalues]; rfl⟩,
      fun q hq => hunmatched (hearlier q hq), found.values, hvalues, ?_⟩
    intro r
    rw [← hentry]
    exact Dispatcher.notFound_of_resolve hresolve
  | error e =>
    refine Or.inr ⟨fun reg hreg => hunmatched ?_, fun r => ?_⟩
    · cases e with
      | notFound => exact (hlog.resolve_eq_notFound_iff.1 hresolve).2 reg hreg
      | methodNotAllowed allowed =>
        intro hget
        exact absurd hget ((hlog.resolve_eq_methodNotAllowed_iff.1 hresolve).1 reg hreg)
    · simp only [Dispatcher.notFound, dispatcher, hresolve]

/-! ### Whether the not-found action matches -/

/-- Some registration under GET has the not-found route as its template. -/
def RegistersNotFound (ds : List Declaration) : Prop :=
  ∃ reg ∈ log ds, reg.method = .get ∧ normalize reg.template = (declared ds).notFoundRoute

theorem notFoundRoute_declared_concat (ds : List Declaration) (d : Declaration) :
    (declared (ds ++ [d])).notFoundRoute = d.notFoundRoute (declared ds).notFoundRoute := by
  rw [declared_concat, declare_eq]

/-- A declaration that is accepted as the not-found action is registered as such. -/
theorem registersNotFound_pageNotFound {t : String} (h : isBlankTemplate t = false)
    (ds : List Declaration) (action : Action) :
    RegistersNotFound (ds ++ [.pageNotFound t action]) := by
  refine ⟨⟨.get, normalize t, action⟩, ?_, rfl, ?_⟩
  · rw [log_concat, Declaration.records, h]
    simp
  · rw [notFoundRoute_declared_concat, Declaration.notFoundRoute, h]
    exact normalize_normalize t

/-- One step: no declaration takes the registration away without putting another in its place. -/
theorem RegistersNotFound.concat {ds : List Declaration} (h : RegistersNotFound ds)
    (d : Declaration) : RegistersNotFound (ds ++ [d]) := by
  have hstays (hroute : d.notFoundRoute (declared ds).notFoundRoute = (declared ds).notFoundRoute) :
      RegistersNotFound (ds ++ [d]) := by
    obtain ⟨reg, hreg, hget, htemplate⟩ := h
    refine ⟨reg, ?_, hget, ?_⟩
    · rw [log_concat]
      exact List.mem_append_left _ hreg
    · rw [notFoundRoute_declared_concat, hroute, htemplate]
  cases d with
  | route ms template action => exact hstays rfl
  | mount c withName => exact hstays rfl
  | pageNotFound template action =>
    cases hblank : isBlankTemplate template with
    | false => exact registersNotFound_pageNotFound hblank ds action
    | true =>
      apply hstays
      rw [Declaration.notFoundRoute, if_pos hblank]

/-- The run: once accepted, a not-found action is registered behind all that follows. -/
theorem registersNotFound_of_accepted {before : List Declaration} {t : String} {action : Action}
    (haccepted : ((declared before).pageNotFound t action).2 = none)
    (after : List Declaration) : RegistersNotFound (before ++ .pageNotFound t action :: after) := by
  induction after using List.reverseRecOn with
  | nil =>
    apply registersNotFound_pageNotFound
    rw [pageNotFound_eq] at haccepted
    by_contra hblank
    rw [if_pos (by simpa using hblank)] at haccepted
    cases haccepted
  | append_singleton after d ih =>
    have hconcat := ih.concat d
    rwa [List.append_assoc, List.cons_append] at hconcat

/-- A registration with the not-found route as its template is found there just when that has no
    placeholders. -/
theorem isSome_captures_notFoundRoute_iff {ds : List Declaration} {reg : Registered Action}
    (htemplate : normalize reg.template = (declared ds).notFoundRoute) :
    (reg.entry.pattern.captures (declared ds).notFoundRoute).isSome = true ↔
      placeholders (parseTemplate (declared ds).notFoundRoute) = [] := by
  rw [← htemplate]
  exact Pattern.isSome_captures_template_iff rfl

/-- Behind an accepted not-found action, whatever is declared before and after it, a miss is
    answered by an action that is registered, as long as the template of the one that counts in the
    end has no placeholders. -/
theorem notFound_runs_registered (before after : List Declaration) (t : String) (action : Action)
    (renderer : View.Renderer)
    (haccepted : ((declared before).pageNotFound t action).2 = none) (ds : List Declaration)
    (hds : ds = before ++ .pageNotFound t action :: after)
    (hplain : placeholders (parseTemplate (declared ds).notFoundRoute) = []) :
    ∃ reg ∈ log ds, reg.method = .get ∧ ∃ values,
      reg.entry.pattern.captures (declared ds).notFoundRoute = some values ∧
      ∀ r, ((declared ds).dispatcher renderer).notFound r =
        (((declared ds).dispatcher renderer).run ⟨reg.entry, values⟩ r).map Dispatcher.missed := by
  have hregisters : RegistersNotFound ds := by
    rw [hds]
    exact registersNotFound_of_accepted haccepted after
  obtain ⟨own, hown, hget, htemplate⟩ := hregisters
  rcases notFound_cases ds renderer with ⟨earlier, reg, later, hsplit, hreg, -, hruns⟩ | ⟨hnone, -⟩
  · exact ⟨reg, by simp [hsplit], hreg.1, hruns⟩
  · have hsome := (isSome_captures_notFoundRoute_iff htemplate).2 hplain
    exact absurd ⟨hget, hsome⟩ (hnone own hown)

/-- A page that names the path that was asked for. -/
def lostPage : Action := fun r _ => .done (.text 200 r.path)

/-- A not-found action between a route with a placeholder and a template that is refused. -/
def lostPages : List Declaration :=
  [.route [.get] "/{page:str}/" lostPage, .pageNotFound "lost(1)" lostPage,
    .pageNotFound " " lostPage]

theorem notFound_runs_registered_lost :
    ((declared [.route [.get] "/{page:str}/" lostPage]).pageNotFound "lost(1)" lostPage).2 = none ∧
    placeholders (parseTemplate (declared lostPages).notFoundRoute) = [] ∧
    ((declared lostPages).dispatcher fun _ _ => .page "").notFound (.bare .put "/a/b") =
      .ok (Response.text 404 "/a/b") := by
  have haccepted : ((declared [.route [.get] "/{page:str}/" lostPage]).pageNotFound "lost(1)"
      lostPage).2 = none := by
    rfl
  have hroute : (declared lostPages).notFoundRoute = "/lost(1)" := by rfl
  have hplain : placeholders (parseTemplate (declared lostPages).notFoundRoute) = [] := by
    rw [hroute]
    decide +kernel
  obtain ⟨reg, hreg, -, values, -, hruns⟩ :=
    notFound_runs_registered [.route [.get] "/{page:str}/" lostPage] [.pageNotFound " " lostPage]
      "lost(1)" lostPage (fun _ _ => .page "") haccepted lostPages rfl hplain
  have hhandler : reg.entry.handler = lostPage := by
    have hlog : log lostPages =
        [⟨.get, "/{page:str}/", lostPage⟩, ⟨.get, "/lost(1)", lostPage⟩] := by rfl
    rw [hlog] at hreg
    simp only [List.mem_cons, List.not_mem_nil, or_false] at hreg
    rcases hreg with rfl | rfl <;> rfl
  refine ⟨haccepted, hplain, ?_⟩
  rw [hruns, Dispatcher.run, hhandler]
  rfl

/-- A template with a placeholder does not match its own text.  Its action is accepted, and no miss
    is answered by an action. -/
theorem pageNotFound_unreached :
    (empty.pageNotFound "/lost/{page:str}" lostPage).2 = none ∧
    ∀ r,
      ((declared [.pageNotFound "/lost/{page:str}" lostPage]).dispatcher fun _ _ =>
        .page "").notFound r = .ok (Dispatcher.plainNotFound r) ∧
      ∀ reg ∈ log [.pageNotFound "/lost/{page:str}" lostPage], ∀ values,
        .ok (Dispatcher.plainNotFound r) ≠
          (((declared [.pageNotFound "/lost/{page:str}" lostPage]).dispatcher
            fun _ _ => .page "").run ⟨reg.entry, values⟩ r).map Dispatcher.missed := by
  have hlog : log [.pageNotFound "/lost/{page:str}" lostPage] =
      [⟨.get, "/lost/{page:str}", lostPage⟩] := by
    rfl
  have hnone : (Pattern.ofTemplate "/lost/{page:str}").captures "/lost/{page:str}" = none := by
    decide +kernel
  refine ⟨by rfl, fun r => ⟨?_, ?_⟩⟩
  · rcases notFound_cases [.pageNotFound "/lost/{page:str}" lostPage] fun _ _ => .page "" with
      ⟨earlier, reg, later, hsplit, -, -, values, hvalues, -⟩ | ⟨-, hplain⟩
    · have hreg : reg ∈ log [.pageNotFound "/lost/{page:str}" lostPage] := by simp [hsplit]
      obtain rfl := List.mem_singleton.1 (hlog ▸ hreg)
      cases hnone.symm.trans hvalues
    · exact hplain r
  · intro reg hreg values heq
    obtain rfl := List.mem_singleton.1 (hlog ▸ hreg)
    have htype : "application/json" = "text/plain; charset=utf-8" :=
      congrArg Response.contentType (Except.ok.inj heq)
    exact absurd htype (by decide)

end App

/-! ### Misses of a service -/

namespace Service

theorem handle_of_resolve_eq_notFound {s : Service} {r : Request}
    (hmiss : s.dispatcher.routes.resolve r.path r.method = .error .notFound)
    (hoffer : ∀ bytes contentType, ¬ s.Offers r bytes contentType) :
    s.handle r = s.dispatcher.notFound r := by
  have hnone := staticFile?_eq_none_iff.2 hoffer
  simp only [handle, Dispatcher.dispatch, hmiss, hnone, Option.elim_none]

/-- A miss that no static file answers runs no action but one that is registered under GET with the
    not-found route as its template, unless another template that matches this route is registered
    in front of it.  It is answered plainly only if nothing matches the route, and so always if
    there is no such registration. -/
theorem handle_miss (ds : List Declaration) (renderer : View.Renderer) (s : Service)
    (hs : s.dispatcher = (App.declared ds).dispatcher renderer) (r : Request)
    (hmiss : (App.declared ds).routes.resolve r.path r.method = .error .notFound)
    (hoffer : ∀ bytes contentType, ¬ s.Offers r bytes contentType)
    (hfirst : ∀ earlier reg later, App.log ds = earlier ++ reg :: later →
      App.MatchesNotFound ds reg → normalize reg.template ≠ (App.declared ds).notFoundRoute →
      ∃ own ∈ earlier, App.MatchesNotFound ds own ∧
        normalize own.template = (App.declared ds).notFoundRoute) :
    ((∃ reg ∈ App.log ds, reg.method = .get ∧
        normalize reg.template = (App.declared ds).notFoundRoute ∧ ∃ values,
        reg.entry.pattern.captures (App.declared ds).notFoundRoute = some values ∧
        s.handle r = (s.dispatcher.run ⟨reg.entry, values⟩ r).map Dispatcher.missed) ∨
      (∀ reg ∈ App.log ds, ¬ App.MatchesNotFound ds reg) ∧
        s.handle r = .ok (Response.json 404 (Json.object [("error", .str "Not Found"),
          ("method", .str r.method.token), ("path", .str r.path)]))) ∧
    ((∀ reg ∈ App.log ds, reg.method = .get →
        normalize reg.template ≠ (App.declared ds).notFoundRoute) →
      s.handle r = .ok (Response.json 404 (Json.object [("error", .str "Not Found"),
        ("method", .str r.method.token), ("path", .str r.path)]))) := by
  have hroutes : s.dispatcher.routes = (App.declared ds).routes := by
    rw [hs]
    rfl
  rw [handle_of_resolve_eq_notFound (hroutes ▸ hmiss) hoffer, hs]
  rcases App.notFound_cases ds renderer with
    ⟨earlier, reg, later, hsplit, hreg, hearlier, values, hvalues, hruns⟩ | ⟨hnone, hplain⟩
  · have hmem : reg ∈ App.log ds := by simp [hsplit]
    have htemplate : normalize reg.template = (App.declared ds).notFoundRoute := by
      by_contra hother
      obtain ⟨own, hown, hmatches, -⟩ := hfirst earlier reg later hsplit hreg hother
      exact hearlier own hown hmatches
    refine ⟨Or.inl ⟨reg, hmem, hreg.1, htemplate, values, hvalues, hruns r⟩, ?_⟩
    intro hunregistered
    exact absurd htemplate (hunregistered reg hmem hreg.1)
  · rw [hplain]
    exact ⟨Or.inr ⟨hnone, rfl⟩, fun _ => rfl⟩

/-- A service with one route under GET and no static files, that names the path asked for. -/
def single (t : String) : Service where
  dispatcher := (App.declared [.route [.get] t App.lostPage]).dispatcher fun _ _ => .page ""
  files := { files := [] }
  staticDir := none

theorem not_offers_single (t : String) (r : Request) (bytes : List UInt8) (contentType : String) :
    ¬ (single t).Offers r bytes contentType := by
  rintro ⟨-, base, hbase, -⟩
  cases hbase

theorem mem_log_single {t : String} (h : isBlankTemplate t = false) {reg : Registered Action} :
    reg ∈ App.log [.route [.get] t App.lostPage] ↔ reg = ⟨.get, t, App.lostPage⟩ := by
  have hrefused : ¬ ActionDecl.Refused ⟨t, [.get], App.lostPage⟩ := by
    rintro ⟨-, hblank⟩
    exact absurd hblank (by simp [h])
  simp [App.log, Declaration.records, hrefused, ActionDecl.records]

theorem resolve_single {t : String} (h : isBlankTemplate t = false) (path : String)
    (hnone : (Pattern.ofTemplate t).captures path = none) :
    (App.declared [.route [.get] t App.lostPage]).routes.resolve path .get =
      .error .notFound := by
  refine (App.follows_declared _).resolve_eq_notFound_iff.2 ⟨⟨_, (mem_log_single h).2 rfl, rfl⟩, ?_⟩
  intro reg hreg _
  obtain rfl := (mem_log_single h).1 hreg
  exact hnone

theorem notFoundRoute_single (t : String) :
    (App.declared [.route [.get] t App.lostPage]).notFoundRoute = defaultNotFoundRoute := by
  rw [← List.nil_append [_], App.notFoundRoute_declared_concat]
  rfl

theorem matchesNotFound_single_iff {t : String} (h : isBlankTemplate t = false)
    {reg : Registered Action} (hreg : reg ∈ App.log [.route [.get] t App.lostPage]) :
    App.MatchesNotFound [.route [.get] t App.lostPage] reg ↔
      ((Pattern.ofTemplate t).captures defaultNotFoundRoute).isSome = true := by
  obtain rfl := (mem_log_single h).1 hreg
  rw [App.MatchesNotFound, notFoundRoute_single]
  exact and_iff_right rfl

theorem handle_miss_item :
    (App.declared [.route [.get] "/item/{id:int}" App.lostPage]).routes.resolve "/item/x" .get =
      .error .notFound ∧
    (single "/item/{id:int}").handle (.bare .get "/item/x") = .ok (Response.json 404 (Json.object
      [("error", .str "Not Found"), ("method", .str "GET"), ("path", .str "/item/x")])) := by
  have hblank : isBlankTemplate "/item/{id:int}" = false := by decide +kernel
  have hmiss := resolve_single hblank "/item/x" (by decide +kernel)
  have hunmatched : ¬ ((Pattern.ofTemplate "/item/{id:int}").captures
      defaultNotFoundRoute).isSome = true := by
    decide +kernel
  refine ⟨hmiss, ?_⟩
  refine (handle_miss _ _ (single "/item/{id:int}") rfl (.bare .get "/item/x") hmiss
    (not_offers_single _ _) ?_).2 ?_
  · intro earlier reg later hsplit hmatches
    have hreg : reg ∈ App.log [.route [.get] "/item/{id:int}" App.lostPage] := by simp [hsplit]
    exact absurd ((matchesNotFound_single_iff hblank hreg).1 hmatches) hunmatched
  · intro reg hreg _
    obtain rfl := (mem_log_single hblank).1 hreg
    exact (by decide +kernel : normalize "/item/{id:int}" ≠ defaultNotFoundRoute)

/-- A route that matches the text of the default not-found route answers misses of other paths,
    although it was not declared for them. -/
theorem handle_miss_intercepted :
    (App.declared [.route [.get] "/{page:str}" App.lostPage]).routes.resolve "/a/b" .get =
      .error .notFound ∧
    (∀ bytes contentType, ¬ (single "/{page:str}").Offers (.bare .get "/a/b") bytes contentType) ∧
    (∀ reg ∈ App.log [.route [.get] "/{page:str}" App.lostPage], normalize reg.template ≠
      (App.declared [.route [.get] "/{page:str}" App.lostPage]).notFoundRoute) ∧
    (single "/{page:str}").handle (.bare .get "/a/b") = .ok (Response.text 404 "/a/b") ∧
    (single "/{page:str}").handle (.bare .get "/a/b") ≠ .ok (Response.json 404 (Json.object
      [("error", .str "Not Found"), ("method", .str "GET"), ("path", .str "/a/b")])) := by
  have hblank : isBlankTemplate "/{page:str}" = false := by decide +kernel
  have hmiss := resolve_single hblank "/a/b" (by decide +kernel)
  have hmatched : ((Pattern.ofTemplate "/{page:str}").captures
      defaultNotFoundRoute).isSome = true := by
    decide +kernel
  have hanswer : (single "/{page:str}").handle (.bare .get "/a/b") =
      .ok (Response.text 404 "/a/b") := by
    rw [handle_of_resolve_eq_notFound hmiss (not_offers_single _ _)]
    rcases App.notFound_cases [.route [.get] "/{page:str}" App.lostPage] fun _ _ => .page "" with
      ⟨earlier, reg, later, hsplit, -, -, values, -, hruns⟩ | ⟨hnone, -⟩
    · have hreg : reg ∈ App.log [.route [.get] "/{page:str}" App.lostPage] := by simp [hsplit]
      obtain rfl := (mem_log_single hblank).1 hreg
      exact hruns _
    · have hreg := (mem_log_single hblank).2 rfl
      exact absurd ((matchesNotFound_single_iff hblank hreg).2 hmatched) (hnone _ hreg)
  refine ⟨hmiss, not_offers_single _ _, ?_, hanswer, ?_⟩
  · intro reg hreg
    obtain rfl := (mem_log_single hblank).1 hreg
    exact (by decide +kernel : normalize "/{page:str}" ≠ defaultNotFoundRoute)
  · rw [hanswer]
    intro heq
    have htype : "text/plain; charset=utf-8" = "application/json" :=
      congrArg Response.contentType (Except.ok.inj heq)
    exact absurd htype (by decide)

end Service

end RouteServer
