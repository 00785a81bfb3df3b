import RouteServer.App.Service
import RouteServer.Proofs.Action.Outcomes
import RouteServer.Proofs.App.Declarations
import RouteServer.Proofs.Route.Resolution

/-
  **How a request is answered** — by an action, a static file, or one of two refusals.

  Which of them it is depends on three questions, asked in this order: whether a route is found,
  whether a static file is offered, and whether the method has routes at all.  `handle_of_resolved`
  and the lemmas behind it give the answer in each case.  Both refusals carry the status of an
  error, even if an action answers in place of the missing page, so whatever else answers an
  unresolved request is a file.
-/

namespace RouteServer

open Route

namespace Service

/-- The routes of the service are those of some declared application. -/
def Declared (s : Service) : Prop := ∃ ds, s.dispatcher.routes = (App.declared ds).routes

/-- The method and the path of the request lead to this route. -/
def Resolves (s : Service) (r : Request) (found : Resolved Action) : Prop :=
  s.dispatcher.routes.resolve r.path r.method = .ok found

/-- A static file may be served for the request, and this is what it holds. -/
def Offers (s : Service) (r : Request) (bytes : List UInt8) (contentType : String) : Prop :=
  (r.method = .get ∨ r.method = .head) ∧
    ∃ base, s.staticDir = some base ∧
      StaticFiles.load s.files base r.path = .ok (bytes, contentType)

variable {s : Service} {r : Request}

theorem staticFile?_eq_some_iff {answer : Response} :
    s.staticFile? r = some answer ↔
      ∃ bytes contentType, s.Offers r bytes contentType ∧
        answer = ⟨200, contentType, if r.method = .head then [] else bytes⟩ := by
  rw [staticFile?]
  constructor
  · intro h
    split at h
    · rename_i hmethod
      split at h
      · cases h
      · rename_i base hbase
        split at h
        · rename_i bytes contentType hload
          exact ⟨bytes, contentType, ⟨hmethod, base, hbase, hload⟩, (Option.some.inj h).symm⟩
        · cases h
    · cases h
  · rintro ⟨bytes, contentType, ⟨hmethod, base, hbase, hload⟩, rfl⟩
    simp only [hmethod, hbase, hload, if_true]

theorem staticFile?_eq_none_iff :
    s.staticFile? r = none ↔ ∀ bytes contentType, ¬ s.Offers r bytes contentType := by
  rw [Option.eq_none_iff_forall_ne_some]
  constructor
  · intro h bytes contentType hoffer
    exact h _ (staticFile?_eq_some_iff.2 ⟨bytes, contentType, hoffer, rfl⟩)
  · intro h answer hanswer
    obtain ⟨bytes, contentType, hoffer, -⟩ := staticFile?_eq_some_iff.1 hanswer
    exact h bytes contentType hoffer

/-! ### The answer in each case -/

theorem handle_of_resolves {found : Resolved Action} (h : s.Resolves r found) :
    s.handle r = s.dispatcher.run found r := by
  rw [handle, Dispatcher.dispatch_of_resolve h]
  cases s.dispatcher.run found r <;> rfl

/-- What answers an unresolved request when no static file does. -/
def refusal (s : Service) (r : Request) : Except Crash Response :=
  if s.dispatcher.routes.entriesFor r.method = [] then
    .ok (Dispatcher.methodNotAllowed r s.dispatcher.routes.methods)
  else s.dispatcher.notFound r

theorem handle_of_unresolved (h : ∀ found, ¬ s.Resolves r found) :
    s.handle r = (s.staticFile? r).elim (s.refusal r) .ok := by
  cases hresolve : s.dispatcher.routes.resolve r.path r.method with
  | ok found => exact absurd hresolve (h found)
  | error e =>
    cases e with
    | notFound =>
      have hentries := (Table.resolve_eq_notFound_iff.1 hresolve).1
      simp only [handle, Dispatcher.dispatch, hresolve, refusal, if_neg hentries]
    | methodNotAllowed allowed =>
      obtain ⟨hentries, rfl⟩ := Table.resolve_eq_methodNotAllowed_iff.1 hresolve
      simp only [handle, Dispatcher.dispatch, hresolve, refusal, if_pos hentries]
      cases s.staticFile? r <;> rfl

/-- A method without routes leaves its requests unresolved. -/
theorem not_resolves_of_entriesFor_eq_nil (h : s.dispatcher.routes.entriesFor r.method = [])
    (found : Resolved Action) : ¬ s.Resolves r found := by
  rw [Resolves, Table.resolve_eq_methodNotAllowed_iff.2 ⟨h, rfl⟩]
  exact nofun

theorem handle_of_offers (h : ∀ found, ¬ s.Resolves r found) {bytes : List UInt8}
    {contentType : String} (hoffer : s.Offers r bytes contentType) :
    s.handle r = .ok ⟨200, contentType, if r.method = .head then [] else bytes⟩ := by
  rw [handle_of_unresolved h, staticFile?_eq_some_iff.2 ⟨bytes, contentType, hoffer, rfl⟩,
    Option.elim_some]

theorem handle_of_not_offers (h : ∀ found, ¬ s.Resolves r found)
    (hoffer : ∀ bytes contentType, ¬ s.Offers r bytes contentType) :
    s.handle r = s.refusal r := by
  rw [handle_of_unresolved h, staticFile?_eq_none_iff.2 hoffer, Option.elim_none]

/-- Nothing but the renderer can keep a service from its answer. -/
theorem exists_crashed_of_handle {message : Crash} (h : s.handle r = .error message) :
    ∃ template context, s.dispatcher.renderer template context = .crashed message := by
  by_cases hresolved : ∃ found, s.Resolves r found
  · obtain ⟨found, hfound⟩ := hresolved
    rw [handle_of_resolves hfound, Dispatcher.run, respond_eq_error_iff] at h
    obtain ⟨template, context, -, hcrash⟩ := h
    exact ⟨template, context, hcrash⟩
  · rw [handle_of_unresolved (not_exists.1 hresolved)] at h
    cases hfile : s.staticFile? r with
    | some answer =>
      rw [hfile] at h
      cases h
    | none =>
      rw [hfile, Option.elim_none, refusal] at h
      split at h
      · cases h
      · obtain ⟨page, -, template, context, -, hcrash⟩ := Dispatcher.notFound_eq_error_iff.1 h
        exact ⟨template, context, hcrash⟩

theorem le_status_missed (answer : Response) : 400 ≤ (Dispatcher.missed answer).status := by
  rw [Dispatcher.missed]
  split
  · exact (by decide : 400 ≤ 404)
  · rename_i hstatus
    exact Nat.le_of_not_lt hstatus

theorem le_status_notFound {d : Dispatcher} {answer : Response} (h : d.notFound r = .ok answer) :
    400 ≤ answer.status := by
  cases hresolve : d.routes.resolve d.notFoundRoute .get with
  | ok page =>
    rw [Dispatcher.notFound_of_resolve hresolve, Crash.map_eq_ok_iff] at h
    obtain ⟨own, -, rfl⟩ := h
    exact le_status_missed own
  | error e =>
    rw [Dispatcher.notFound, hresolve] at h
    cases h
    exact (by decide : 400 ≤ 404)

theorem le_status_refusal {answer : Response} (h : s.refusal r = .ok answer) :
    400 ≤ answer.status := by
  rw [refusal] at h
  split at h
  · cases h
    exact (by decide : 400 ≤ 405)
  · exact le_status_notFound h

/-- The methods that are listed as allowed are those that have routes, each once. -/
theorem Declared.allowed (h : s.Declared) :
    s.dispatcher.routes.methods.Nodup ∧
      ∀ m, m ∈ s.dispatcher.routes.methods ↔ s.dispatcher.routes.entriesFor m ≠ [] := by
  obtain ⟨ds, hroutes⟩ := h
  obtain ⟨log, hlog⟩ := App.exists_follows_declared ds
  rw [hroutes]
  exact ⟨hlog.nodup_methods, hlog.records.mem_methods⟩

/-- Every request to a declared application is answered in one of four ways.  An action answers it
    if a route is found, whatever files there are; else a static file does if one is offered; else
    the methods that have routes are listed if its own has none; and else the page is not found.
    Only a file answers an unresolved request with a status below 400, and the answers to GET and
    HEAD for a file differ in the body alone. -/
theorem handle_declared (s : Service) (hs : s.Declared) (r : Request) :
    (∀ found, s.Resolves r found → ∀ files staticDir,
      ({ s with files, staticDir } : Service).handle r = s.dispatcher.run found r) ∧
    ((∀ found, ¬ s.Resolves r found) →
      (∀ bytes contentType, s.Offers r bytes contentType →
        s.handle r = .ok ⟨200, contentType, if r.method = .head then [] else bytes⟩) ∧
      ((∀ bytes contentType, ¬ s.Offers r bytes contentType) →
        (s.dispatcher.routes.entriesFor r.method = [] →
          ∃ allowed : List Method, allowed.Nodup ∧
            (∀ m, m ∈ allowed ↔ s.dispatcher.routes.entriesFor m ≠ []) ∧
            s.handle r = .ok (Response.json 405 (Json.object
              [("error", .str "Method Not Allowed"), ("method", .str r.method.token),
               ("path", .str r.path), ("allowed", .arr (allowed.map fun m => .str m.token))]))) ∧
        (s.dispatcher.routes.entriesFor r.method ≠ [] →
          s.handle r = s.dispatcher.notFound r)) ∧
      (∀ answer, s.handle r = .ok answer → answer.status < 400 →
        ∃ bytes contentType, s.Offers r bytes contentType)) ∧
    (∀ bytes contentType,
      (∀ found, ¬ s.Resolves { r with method := .get } found) →
      (∀ found, ¬ s.Resolves { r with method := .head } found) →
      s.Offers { r with method := .get } bytes contentType →
      s.handle { r with method := .head } =
        (s.handle { r with method := .get }).map fun answer => { answer with body := [] }) := by
  refine ⟨?_, fun hnone => ⟨fun bytes contentType => handle_of_offers hnone, ?_, ?_⟩, ?_⟩
  · intro found hfound files staticDir
    exact handle_of_resolves (s := { s with files, staticDir }) hfound
  · intro hoffer
    have hrefusal := handle_of_not_offers hnone hoffer
    refine ⟨fun hentries => ?_, fun hentries => ?_⟩
    · obtain ⟨hnodup, hmem⟩ := hs.allowed
      refine ⟨s.dispatcher.routes.methods, hnodup, hmem, ?_⟩
      rw [hrefusal, refusal, if_pos hentries]
      rfl
    · rw [hrefusal, refusal, if_neg hentries]
  · -- without a file the answer is a refusal, and a refusal has the status of an error
    intro answer hanswer hstatus
    by_contra hoffer
    simp only [not_exists] at hoffer
    rw [handle_of_not_offers hnone hoffer] at hanswer
    exact Nat.not_lt_of_le (le_status_refusal hanswer) hstatus
  · intro bytes contentType hget hhead hoffer
    obtain ⟨-, hfile⟩ := hoffer
    rw [handle_of_offers hhead ⟨Or.inr rfl, hfile⟩, handle_of_offers hget ⟨Or.inl rfl, hfile⟩]
    rfl

/-- A stylesheet at a path that has a route for POST only. -/
def stylesheet : Service where
  dispatcher := (App.declared [.route [.post] "/x.css" fun _ _ => .crashed none]).dispatcher
    fun _ _ => .page ""
  files := { files := [(["static", "x.css"], [0x2A])] }
  staticDir := some "static"

theorem handle_declared_head :
    stylesheet.Declared ∧
      stylesheet.handle (.bare .head "/x.css") = .ok ⟨200, "text/css", []⟩ := by
  have hdeclared : stylesheet.Declared := ⟨_, rfl⟩
  have hentries : stylesheet.dispatcher.routes.entriesFor .head = [] := by
    rw [← List.isEmpty_iff]
    decide +kernel
  have hoffer : stylesheet.Offers (.bare .head "/x.css") [0x2A] "text/css" :=
    ⟨Or.inr rfl, "static", rfl, by decide +kernel⟩
  obtain ⟨-, hunresolved, -⟩ := handle_declared stylesheet hdeclared (.bare .head "/x.css")
  exact ⟨hdeclared, (hunresolved (not_resolves_of_entriesFor_eq_nil hentries)).1 _ _ hoffer⟩

end Service

end RouteServer
