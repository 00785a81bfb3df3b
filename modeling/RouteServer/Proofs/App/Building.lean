import RouteServer.Proofs.App.Declarations

/-
  **Building step by step** — what each declaration of a series adds, and the error it ends with.

  `Effect` lists the ways a declaration can go, one constructor for each: an action or a not-found
  action is registered as a whole or not at all, and mounting a controller stops at the first action
  that is refused.  Every declaration goes exactly one of these ways (`effect_iff`), and the
  application behind it is the old one with the records of that way (`declare_of_effect`).  `Builds`
  follows a whole series of declarations, those that fail included.
-/

namespace RouteServer

open Route

namespace Declaration

/-- The records that a declaration adds, where the not-found action is looked up behind it if it was
    looked up at `page` before, and the error of the declaration. -/
inductive Effect (page : String) :
    Declaration → List (Registered Action) → String → Option RouteError → Prop
  | noMethods {template : String} {action : Action} :
      Effect page (.route [] template action) [] page none
  | blankRoute {ms : List Method} {template : String} {action : Action} :
      ms ≠ [] → isBlankTemplate template = true →
      Effect page (.route ms template action) [] page (some (.blank template))
  | route {ms : List Method} {template : String} {action : Action} :
      ms ≠ [] → isBlankTemplate template = false →
      Effect page (.route ms template action) (ms.map fun m => ⟨m, template, action⟩) page none
  | blankPage {template : String} {action : Action} :
      isBlankTemplate template = true →
      Effect page (.pageNotFound template action) [] page (some (.blank template))
  | page {template : String} {action : Action} :
      isBlankTemplate template = false →
      Effect page (.pageNotFound template action) [⟨.get, normalize template, action⟩]
        (normalize template) none
  | mounted {c : Controller} {withName : Bool} :
      (∀ d ∈ App.mountedActions c withName, ¬ d.Refused) →
      Effect page (.mount c withName)
        ((App.mountedActions c withName).flatMap ActionDecl.records) page none
  -- the actions in front of the refused one stay, and those behind it are not looked at
  | stopped {c : Controller} {withName : Bool} {before after : List ActionDecl} {d : ActionDecl} :
      App.mountedActions c withName = before ++ d :: after → (∀ b ∈ before, ¬ b.Refused) →
      d.Refused →
      Effect page (.mount c withName) (before.flatMap ActionDecl.records) page
        (some (.blank d.template))

/-- The error of a declaration. -/
def error? : Declaration → Option RouteError
  | .route ms template action =>
    if ActionDecl.Refused ⟨template, ms, action⟩ then some (.blank template) else none
  | .pageNotFound template _ => if isBlankTemplate template then some (.blank template) else none
  | .mount c withName =>
    ((App.mountedActions c withName).find? fun d => d.Refused).map fun d => .blank d.template

variable {d : Declaration} {page page' : String} {records : List (Registered Action)}
  {error : Option RouteError}

/-! ### The way a declaration goes -/

theorem exists_effect (d : Declaration) (page : String) :
    ∃ records page' error, d.Effect page records page' error := by
  cases d with
  | route ms template action =>
    rcases eq_or_ne ms [] with rfl | hms
    · exact ⟨_, _, _, .noMethods⟩
    · cases hblank : isBlankTemplate template with
      | true => exact ⟨_, _, _, .blankRoute hms hblank⟩
      | false => exact ⟨_, _, _, .route hms hblank⟩
  | pageNotFound template action =>
    cases hblank : isBlankTemplate template with
    | true => exact ⟨_, _, _, .blankPage hblank⟩
    | false => exact ⟨_, _, _, .page hblank⟩
  | mount c withName =>
    rcases ActionDecl.accepted_or_split (App.mountedActions c withName) with
      haccepted | ⟨before, d, after, hsplit, hbefore, hd⟩
    · exact ⟨_, _, _, .mounted haccepted⟩
    · exact ⟨_, _, _, .stopped hsplit hbefore hd⟩

/-- What a declaration does is read off the declaration, so no declaration goes two ways. -/
theorem Effect.eq (h : d.Effect page records page' error) :
    records = d.records ∧ page' = d.notFoundRoute page ∧ error = d.error? := by
  cases h with
  | @noMethods template action =>
    have haccepted : ¬ ActionDecl.Refused ⟨template, [], action⟩ := fun h => h.1 rfl
    rw [Declaration.records, error?, if_neg haccepted, if_neg haccepted]
    exact ⟨rfl, rfl, rfl⟩
  | @blankRoute ms template action hms hblank =>
    have hrefused : ActionDecl.Refused ⟨template, ms, action⟩ := ⟨hms, hblank⟩
    rw [Declaration.records, error?, if_pos hrefused, if_pos hrefused]
    exact ⟨rfl, rfl, rfl⟩
  | @route ms template action hms hblank =>
    have haccepted : ¬ ActionDecl.Refused ⟨template, ms, action⟩ := by
      intro hrefused
      exact absurd (hblank.symm.trans hrefused.2) Bool.false_ne_true
    rw [Declaration.records, error?, if_neg haccepted, if_neg haccepted]
    exact ⟨rfl, rfl, rfl⟩
  | blankPage hblank =>
    simp only [Declaration.records, notFoundRoute, error?, hblank, if_true, and_self]
  | page hblank =>
    simp only [Declaration.records, notFoundRoute, error?, hblank, Bool.false_eq_true, if_false,
      and_self]
  | mounted haccepted =>
    rw [Declaration.records, error?, ActionDecl.takeWhile_of_accepted haccepted,
      ActionDecl.find?_of_accepted haccepted]
    exact ⟨rfl, rfl, rfl⟩
  | stopped hsplit hbefore hd =>
    rw [Declaration.records, error?, hsplit, ActionDecl.takeWhile_of_refused hbefore hd,
      ActionDecl.find?_of_refused hbefore hd]
    exact ⟨rfl, rfl, rfl⟩

theorem effect_iff :
    d.Effect page records page' error ↔
      records = d.records ∧ page' = d.notFoundRoute page ∧ error = d.error? := by
  constructor
  · exact Effect.eq
  · rintro ⟨rfl, rfl, rfl⟩
    obtain ⟨records, page', error, heffect⟩ := d.exists_effect page
    obtain ⟨rfl, rfl, rfl⟩ := heffect.eq
    exact heffect

end Declaration

namespace App

/-- The error of a declaration does not depend on what was declared before it. -/
theorem declare_snd (a : App) (d : Declaration) : (a.declare d).2 = d.error? := by
  cases d with
  | route ms template action =>
    by_cases hrefused : ActionDecl.Refused ⟨template, ms, action⟩
    · rw [declare, route_of_refused hrefused, Declaration.error?, if_pos hrefused]
    · rw [declare, route_of_not_refused hrefused, Declaration.error?, if_neg hrefused]
  | pageNotFound template action =>
    rw [declare, pageNotFound_eq, Declaration.error?]
    split <;> rfl
  | mount c withName =>
    rw [declare, mount, declareAll_eq]
    rfl

/-- The step: the application behind a declaration is the old one with its records. -/
theorem declare_of_effect {a : App} {d : Declaration} {records : List (Registered Action)}
    {page : String} {error : Option RouteError}
    (h : d.Effect a.notFoundRoute records page error) :
    a.declare d = ({ a.extend records with notFoundRoute := page }, error) := by
  obtain ⟨rfl, rfl, rfl⟩ := h.eq
  apply Prod.ext
  · exact declare_eq a d
  · exact declare_snd a d

/-! ### A whole series -/

/-- The errors of a series of declarations, one answer for each. -/
def answers (a : App) : List Declaration → List (Option RouteError)
  | [] => []
  | d :: ds => (a.declare d).2 :: answers (a.declare d).1 ds

/-- The log that a series of declarations leaves, the not-found route behind it, and its answers:
    one declaration after another goes one of its ways. -/
inductive Builds :
    List Declaration → List (Registered Action) → String → List (Option RouteError) → Prop
  | nil : Builds [] [] defaultNotFoundRoute []
  | concat {ds : List Declaration} {log records : List (Registered Action)} {page page' : String}
      {errors : List (Option RouteError)} {error : Option RouteError} {d : Declaration} :
      Builds ds log page errors → d.Effect page records page' error →
      Builds (ds ++ [d]) (log ++ records) page' (errors ++ [error])

theorem answers_concat (a : App) (ds : List Declaration) (d : Declaration) :
    a.answers (ds ++ [d]) = a.answers ds ++ [d.error?] := by
  induction ds generalizing a with
  | nil => rw [List.nil_append, answers, answers, answers, declare_snd, List.nil_append]
  | cons e ds ih => rw [List.cons_append, answers, ih, answers, List.cons_append]

theorem builds_declared (ds : List Declaration) :
    Builds ds (log ds) (declared ds).notFoundRoute (empty.answers ds) := by
  induction ds using List.reverseRecOn with
  | nil => exact .nil
  | append_singleton ds d ih =>
    rw [log_concat, declared_concat, declare_eq, answers_concat]
    exact ih.concat (d.effect_iff.2 ⟨rfl, rfl, rfl⟩)

variable {ds : List Declaration} {records : List (Registered Action)} {page : String}
  {errors : List (Option RouteError)}

theorem Builds.eq (h : Builds ds records page errors) :
    records = log ds ∧ page = (declared ds).notFoundRoute ∧ errors = empty.answers ds := by
  induction h with
  | nil => exact ⟨rfl, rfl, rfl⟩
  | concat _ heffect ih =>
    obtain ⟨rfl, rfl, rfl⟩ := ih
    obtain ⟨rfl, rfl, rfl⟩ := heffect.eq
    rw [log_concat, declared_concat, declare_eq, answers_concat]
    exact ⟨rfl, rfl, rfl⟩

theorem routes_declared (ds : List Declaration) :
    (declared ds).routes = Table.empty.pushAll (log ds) := by
  induction ds using List.reverseRecOn with
  | nil => rfl
  | append_singleton ds d ih =>
    rw [declared_concat, declare_eq, log_concat, Table.pushAll, List.foldl_append]
    exact congrArg (Table.pushAll · d.records) ih

/-- **Every declaration goes one of its ways, and nothing else happens.**  A series of declarations
    leaves one log, one not-found route and one list of answers; its routes are those of the log,
    registered one by one into an empty table.  A declaration that fails changes nothing, unless it
    mounts a controller: then the actions in front of the one that is refused stay. -/
theorem declared_builds (ds : List Declaration) :
    ∃ log page errors,
      (∀ log' page' errors', Builds ds log' page' errors' ↔
        log' = log ∧ page' = page ∧ errors' = errors) ∧
      declared ds = ⟨Table.empty.pushAll log, page⟩ ∧
      (declared ds).routes.Records log ∧
      empty.answers ds = errors ∧
      (∀ d : Declaration, (∀ c withName, d ≠ .mount c withName) →
        ((declared ds).declare d).2 ≠ none → ((declared ds).declare d).1 = declared ds) := by
  refine ⟨log ds, (declared ds).notFoundRoute, empty.answers ds, ?_, ?_, ?_, rfl, ?_⟩
  · intro log' page' errors'
    constructor
    · exact Builds.eq
    · rintro ⟨rfl, rfl, rfl⟩
      exact builds_declared ds
  · rw [← routes_declared]
  · exact (follows_declared ds).records
  · intro d hmount herror
    obtain ⟨records, page', error, heffect⟩ := d.exists_effect (declared ds).notFoundRoute
    rw [declare_of_effect heffect] at herror ⊢
    -- the ways that end with an error add nothing, apart from that of a mount
    cases heffect with
    | noMethods => exact absurd rfl herror
    | blankRoute => rfl
    | route => exact absurd rfl herror
    | blankPage => rfl
    | page => exact absurd rfl herror
    | mounted => exact absurd rfl herror
    | stopped => exact absurd rfl (hmount _ _)

def silent : Action := fun _ _ => .crashed none

/-- A controller whose second action has no methods and whose third is refused. -/
def refusing : Controller :=
  ⟨"PageController", [.single .get "/a" silent, ⟨"", [], silent⟩, .single .post " " silent,
    .single .get "/b" silent]⟩

def refusedDeclarations : List Declaration :=
  [.pageNotFound " " silent, .mount refusing false, .pageNotFound "lost" silent]

theorem declared_builds_refused :
    (declared refusedDeclarations).routes.methods = [.get] ∧
    (declared refusedDeclarations).routes.size = 2 ∧
    (declared refusedDeclarations).notFoundRoute = "/lost" ∧
    empty.answers refusedDeclarations = [some (.blank " "), some (.blank " "), none] ∧
    ((declared refusedDeclarations).declare (.route [.put, .get] "\t" silent)).1 =
      declared refusedDeclarations := by
  have hspace : isBlankTemplate " " = true := by decide +kernel
  have htab : isBlankTemplate "\t" = true := by decide +kernel
  have hlost : isBlankTemplate "lost" = false := by decide +kernel
  have hrefused : (Declaration.pageNotFound " " silent).Effect defaultNotFoundRoute []
      defaultNotFoundRoute (some (.blank " ")) := .blankPage hspace
  have hfront : ∀ b ∈ refusing.actions.take 2, ¬ b.Refused := by decide +kernel
  have hstopped : (Declaration.mount refusing false).Effect defaultNotFoundRoute
      ((refusing.actions.take 2).flatMap ActionDecl.records) defaultNotFoundRoute
      (some (.blank " ")) := by
    have hsplit : mountedActions refusing false = refusing.actions.take 2 ++
        .single .post " " silent :: [.single .get "/b" silent] := rfl
    exact .stopped hsplit hfront ⟨List.cons_ne_nil _ _, hspace⟩
  have haccepted : (Declaration.pageNotFound "lost" silent).Effect defaultNotFoundRoute
      [⟨.get, normalize "lost", silent⟩] (normalize "lost") none := .page hlost
  have hbuilds := ((Builds.nil.concat hrefused).concat hstopped).concat haccepted
  obtain ⟨log, page, errors, hunique, hdeclared, hrecords, hanswers, hfailed⟩ :=
    declared_builds refusedDeclarations
  obtain ⟨hlog, hpage, herrors⟩ := (hunique _ _ _).1 hbuilds
  refine ⟨?_, ?_, ?_, ?_, hfailed _ (fun _ _ => nofun) ?_⟩
  · rw [hrecords.methods, ← hlog]
    decide
  · rw [hrecords.size, ← hlog]
    rfl
  · rw [hdeclared, ← hpage]
    exact (by decide +kernel : normalize "lost" = "/lost")
  · rw [hanswers, ← herrors]
    rfl
  · rw [declare_of_effect (.blankRoute (List.cons_ne_nil _ _) htab)]
    exact Option.some_ne_none _

end App

end RouteServer
