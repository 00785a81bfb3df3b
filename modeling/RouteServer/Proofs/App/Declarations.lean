import Mathlib.Data.List.TakeWhile
import RouteServer.App.Builder
import RouteServer.Proofs.Route.History

/-
  **Declared applications** — what a series of declarations leaves in the table of routes.

  A declaration may fail, and mounting a controller may fail in the middle.  Either way the
  application only grows: `extend` adds records behind those that are there.  `declareAll_eq` says
  which ones for a series of actions, namely those in front of the first that is refused, and
  `declare_eq` for every declaration.  So the table of a declared application follows the `log` of
  its declarations, and what is known of such tables is known of it.
-/

namespace RouteServer

open Route

/-- One step of building an application. -/
inductive Declaration where
  /-- an action under some methods; a single verb is the case of one method -/
  | route (ms : List Method) (template : String) (action : Action)
  | pageNotFound (template : String) (action : Action)
  | mount (c : Controller) (withName : Bool)

namespace ActionDecl

/-- The records of an action: one for each of its methods. -/
def records (d : ActionDecl) : List (Registered Action) :=
  d.methods.map fun m => ⟨m, d.template, d.action⟩

/-- An action is refused for a blank template, but only if it is declared under a method. -/
def Refused (d : ActionDecl) : Prop := d.methods ≠ [] ∧ isBlankTemplate d.template = true

instance (d : ActionDecl) : Decidable d.Refused := inferInstanceAs (Decidable (_ ∧ _))

/-! ### Up to the first action that is refused -/

variable {d : ActionDecl} {ds before : List ActionDecl}

theorem takeWhile_of_accepted (h : ∀ d ∈ ds, ¬ d.Refused) :
    (ds.takeWhile fun d => ¬ d.Refused) = ds := by
  apply List.takeWhile_eq_self_iff.2
  intro d hd
  simpa using h d hd

theorem find?_of_accepted (h : ∀ d ∈ ds, ¬ d.Refused) : (ds.find? fun d => d.Refused) = none := by
  apply List.find?_eq_none.2
  intro d hd
  simpa using h d hd

theorem takeWhile_of_refused (hbefore : ∀ b ∈ before, ¬ b.Refused) (hd : d.Refused)
    (after : List ActionDecl) :
    ((before ++ d :: after).takeWhile fun d => ¬ d.Refused) = before := by
  rw [List.takeWhile_append_of_pos (by simpa using hbefore),
    List.takeWhile_cons_of_neg (by simpa using hd), List.append_nil]

theorem find?_of_refused (hbefore : ∀ b ∈ before, ¬ b.Refused) (hd : d.Refused)
    (after : List ActionDecl) : ((before ++ d :: after).find? fun d => d.Refused) = some d := by
  rw [List.find?_append, find?_of_accepted hbefore, Option.none_or,
    List.find?_cons_of_pos (by simpa using hd)]

/-- Actions are all accepted, or there is a first one that is refused. -/
theorem accepted_or_split (ds : List ActionDecl) :
    (∀ d ∈ ds, ¬ d.Refused) ∨
      ∃ before d after, ds = before ++ d :: after ∧ (∀ b ∈ before, ¬ b.Refused) ∧ d.Refused := by
  induction ds with
  | nil => exact Or.inl fun d hd => absurd hd List.not_mem_nil
  | cons d ds ih =>
    by_cases hd : d.Refused
    · exact Or.inr ⟨[], d, ds, rfl, fun b hb => absurd hb List.not_mem_nil, hd⟩
    · rcases ih with haccepted | ⟨before, e, after, rfl, hbefore, he⟩
      · exact Or.inl (List.forall_mem_cons.2 ⟨hd, haccepted⟩)
      · exact Or.inr ⟨d :: before, e, after, rfl, List.forall_mem_cons.2 ⟨hd, hbefore⟩, he⟩

end ActionDecl

namespace App

/-- The application with more records in its table. -/
def extend (a : App) (records : List (Registered Action)) : App :=
  { a with routes := a.routes.pushAll records }

def declare (a : App) : Declaration → Step
  | .route ms template action => a.route ms template action
  | .pageNotFound template action => a.pageNotFound template action
  | .mount c withName => a.mount c withName

/-- The application behind a series of declarations, those that fail included. -/
def declared (ds : List Declaration) : App := ds.foldl (fun a d => (a.declare d).1) .empty

theorem extend_nil (a : App) : a.extend [] = a := rfl

theorem extend_append (a : App) (records more : List (Registered Action)) :
    a.extend (records ++ more) = (a.extend records).extend more := by
  simp only [extend, Table.pushAll, List.foldl_append]

/-! ### One declaration -/

theorem route_of_refused {d : ActionDecl} (h : d.Refused) (a : App) :
    a.route d.methods d.template d.action = (a, some (.blank d.template)) := by
  obtain ⟨hmethods, hblank⟩ := h
  rw [route, if_neg (by simpa using hmethods), Table.registerMany, compile, compileDeclared,
    if_pos hblank]
  rfl

theorem route_of_not_refused {d : ActionDecl} (h : ¬ d.Refused) (a : App) :
    a.route d.methods d.template d.action = (a.extend d.records, none) := by
  by_cases hmethods : d.methods = []
  · rw [route, hmethods, ActionDecl.records, hmethods]
    rfl
  · have hblank : ¬ isBlankTemplate d.template = true := fun hblank => h ⟨hmethods, hblank⟩
    rw [route, if_neg (by simpa using hmethods), Table.registerMany, compile, compileDeclared,
      if_neg hblank, extend, Table.pushAll, ActionDecl.records, List.foldl_map]
    rfl

/-- Actions are declared up to the first that is refused, and its error is the error of the
    whole. -/
theorem declareAll_eq (a : App) (ds : List ActionDecl) :
    a.declareAll ds =
      (a.extend ((ds.takeWhile fun d => ¬ d.Refused).flatMap ActionDecl.records),
        (ds.find? fun d => d.Refused).map fun d => .blank d.template) := by
  induction ds generalizing a with
  | nil => rfl
  | cons d ds ih =>
    by_cases h : d.Refused
    · rw [declareAll, route_of_refused h]
      simp [h, extend_nil]
    · rw [declareAll, route_of_not_refused h]
      simp [h, ih, extend_append]

/-- The text of the compiled route is compiled once more, to the same route. -/
theorem pageNotFound_of_compile {t : String} {p : Pattern} (h : compile t = .ok p) (a : App)
    (action : Action) :
    a.pageNotFound t action = (⟨a.routes.push .get (.ofPattern p action), p.template⟩, none) := by
  simp only [pageNotFound, h, Table.register_of_compile (compile_template h)]

theorem pageNotFound_of_error {t : String} {e : RouteError} (h : compile t = .error e) (a : App)
    (action : Action) : a.pageNotFound t action = (a, some e) := by
  simp only [pageNotFound, h]

theorem pageNotFound_eq (a : App) (t : String) (action : Action) :
    a.pageNotFound t action =
      if isBlankTemplate t then (a, some (.blank t))
      else
        ({ a.extend [⟨.get, normalize t, action⟩] with notFoundRoute := normalize t }, none) := by
  split
  · rename_i hblank
    apply pageNotFound_of_error
    rw [compile, compileDeclared, if_pos hblank]
  · rename_i hvisible
    rw [pageNotFound_of_compile (compile_of_visible (Bool.eq_false_iff.2 hvisible)), extend,
      Table.pushAll, List.foldl_cons, List.foldl_nil, Registered.entry,
      Pattern.ofTemplate_normalize]
    rfl

end App

namespace Declaration

/-- The records of a declaration.  One that fails has those of the actions in front of the one that
    is refused. -/
def records : Declaration → List (Registered Action)
  | .route ms template action =>
    let d : ActionDecl := ⟨template, ms, action⟩
    if d.Refused then [] else d.records
  | .pageNotFound template action =>
    if isBlankTemplate template then [] else [⟨.get, normalize template, action⟩]
  | .mount c withName =>
    ((App.mountedActions c withName).takeWhile fun d => ¬ d.Refused).flatMap ActionDecl.records

/-- Where the not-found action is looked up behind a declaration. -/
def notFoundRoute (route : String) : Declaration → String
  | .pageNotFound template _ => if isBlankTemplate template then route else normalize template
  | .route _ _ _ | .mount _ _ => route

end Declaration

namespace App

/-- One step: a declaration adds its records, and only one of a not-found action moves the place
    where that is looked up. -/
theorem declare_eq (a : App) (d : Declaration) :
    (a.declare d).1 =
      { a.extend d.records with notFoundRoute := d.notFoundRoute a.notFoundRoute } := by
  cases d with
  | route ms template action =>
    by_cases h : ActionDecl.Refused ⟨template, ms, action⟩
    · rw [declare, route_of_refused h, Declaration.records, if_pos h]
      rfl
    · rw [declare, route_of_not_refused h, Declaration.records, if_neg h]
      rfl
  | pageNotFound template action =>
    rw [declare, pageNotFound_eq, Declaration.records, Declaration.notFoundRoute]
    by_cases h : isBlankTemplate template = true
    · simp only [if_pos h]
      rfl
    · simp only [if_neg h]
  | mount c withName =>
    rw [declare, mount, declareAll_eq]
    rfl

/-! ### A series of declarations -/

/-- The records that a series of declarations leaves in the table. -/
def log (ds : List Declaration) : List (Registered Action) := ds.flatMap Declaration.records

theorem declared_concat (ds : List Declaration) (d : Declaration) :
    declared (ds ++ [d]) = ((declared ds).declare d).1 :=
  List.foldl_concat _ _ _ _

theorem log_concat (ds : List Declaration) (d : Declaration) :
    log (ds ++ [d]) = log ds ++ d.records := by
  simp [log]

/-- The run: the table of a declared application follows its log. -/
theorem follows_declared (ds : List Declaration) : (declared ds).routes.Follows (log ds) := by
  induction ds using List.reverseRecOn with
  | nil => exact .empty
  | append_singleton ds d ih =>
    rw [declared_concat, declare_eq, log_concat]
    exact ih.pushAll d.records

theorem exists_follows_declared (ds : List Declaration) :
    ∃ log, (declared ds).routes.Follows log :=
  ⟨log ds, follows_declared ds⟩

/-- The patterns of a declared application are those of their templates. -/
theorem segments_of_mem_entriesFor {ds : List Declaration} {m : Method} {e : Entry Action}
    (h : e ∈ (declared ds).routes.entriesFor m) :
    e.pattern.segments = parseTemplate e.pattern.template := by
  rw [(follows_declared ds).entriesFor_eq] at h
  obtain ⟨r, -, rfl⟩ := List.mem_map.1 h
  rfl

end App

end RouteServer
