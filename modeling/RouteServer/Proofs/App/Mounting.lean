import RouteServer.Proofs.App.Declarations
import RouteServer.Proofs.Route.Prefix
import RouteServer.Proofs.Route.Selection

/-
  **Mounting with a name** — the name in front of the routes shifts their paths and nothing else.

  With the name and without it, a controller leaves two logs that differ in the templates only
  (`flatMap_records_mountedActions`), so the entries of the two tables stand in pairs.  Of such a
  pair, the one captures from a path behind the name what the other captures from the path itself.
  A path that does not begin with the name is matched by no entry of the first table.

  The name also hides blank templates.  A controller that is refused without it is accepted with it
  (`mount_fails_iff`).
-/

namespace RouteServer

open Route

/-! ### Templates behind a name -/

namespace Controller

theorem mountedTemplate_eq (start t : String) :
    mountedTemplate start t = "/" ++ start ++ normalize t := by
  rw [mountedTemplate]
  split
  · rename_i r hr
    rw [normalize_of_slash hr]
  · rename_i hslash
    have hhead : t.toList.head? ≠ some '/' := by
      intro hhead
      obtain ⟨r, hr⟩ := List.head?_eq_some_iff.1 hhead
      exact hslash r hr
    rw [normalize_of_not_slash hhead, ← String.append_assoc]

theorem toList_mountedTemplate (start t : String) :
    (mountedTemplate start t).toList = '/' :: (start.toList ++ (normalize t).toList) := by
  simp [mountedTemplate_eq]

theorem normalize_mountedTemplate (start t : String) :
    normalize (mountedTemplate start t) = "/" ++ start ++ normalize t := by
  rw [normalize_of_slash (toList_mountedTemplate start t), mountedTemplate_eq]

end Controller

/-- A record whose template stands behind a name. -/
def Route.Registered.behind (start : String) (r : Registered Action) : Registered Action :=
  { r with template := Controller.mountedTemplate start r.template }

section Behind

variable {start : String} (hstart : ¬ HoldsPlaceholder start.toList)
include hstart

theorem not_holdsPlaceholder_front : ¬ HoldsPlaceholder ("/" ++ start).toList := by
  rw [String.toList_append]
  exact not_holdsPlaceholder_slash_cons hstart

theorem captures_behind (r : Registered Action) (p : String) :
    (r.behind start).entry.pattern.captures ("/" ++ start ++ p) = r.entry.pattern.captures p :=
  Pattern.captures_of_front (not_holdsPlaceholder_front hstart)
    (Controller.normalize_mountedTemplate start r.template) p

theorem exists_eq_of_captures_behind {r : Registered Action} {path : String} {vs : List String}
    (h : (r.behind start).entry.pattern.captures path = some vs) :
    ∃ p : String, p.toList.head? = some '/' ∧ path = "/" ++ start ++ p :=
  Pattern.exists_eq_of_captures (not_holdsPlaceholder_front hstart)
    (Controller.normalize_mountedTemplate start r.template) h

end Behind

/-! ### The two tables -/

section Tables

variable {start : String} {t u : Table Action} {log : List (Registered Action)}
  (ht : t.Follows (log.map (Registered.behind start))) (hu : u.Follows log)
include ht

theorem entriesFor_behind (m : Method) :
    t.entriesFor m = (log.filter (·.method = m)).map fun r => (r.behind start).entry := by
  rw [ht.entriesFor_eq, List.filter_map, List.map_map]
  rfl

theorem resolve_behind_ne_ok (hstart : ¬ HoldsPlaceholder start.toList) {path : String}
    (hpath : ∀ p : String, p.toList.head? = some '/' → path ≠ "/" ++ start ++ p) (m : Method)
    (found : Resolved Action) : t.resolve path m ≠ .ok found := by
  intro hfound
  rw [Table.resolve_eq_ok_iff, firstMatch_eq_some_iff] at hfound
  obtain ⟨earlier, later, hentries, hvalues, -⟩ := hfound
  -- the entry is one of those behind the name, and it captures from no other path
  have hmem : found.entry ∈ t.entriesFor m := by
    rw [hentries]
    simp
  rw [entriesFor_behind ht] at hmem
  obtain ⟨r, -, hr⟩ := List.mem_map.1 hmem
  rw [← hr] at hvalues
  obtain ⟨p, hslash, hp⟩ := exists_eq_of_captures_behind hstart hvalues
  exact hpath p hslash hp

include hu

theorem methods_behind : t.methods = u.methods := by
  rw [ht.methods_eq, hu.methods_eq, List.map_map]
  rfl

theorem size_behind : t.size = u.size := by
  rw [ht.size_eq, hu.size_eq, List.length_map]

theorem handlers_behind (m : Method) :
    (t.entriesFor m).map (·.handler) = (u.entriesFor m).map (·.handler) := by
  rw [entriesFor_behind ht, hu.entriesFor_eq, List.map_map, List.map_map]
  rfl

theorem answersAlike_behind (hstart : ¬ HoldsPlaceholder start.toList) (m : Method) (p : String) :
    t.AnswersAlike ("/" ++ start ++ p) u p m :=
  Table.answersAlike_of_pairs (methods_behind ht hu) (entriesFor_behind ht m) (hu.entriesFor_eq m)
    fun r => captures_behind hstart r p

end Tables

/-! ### Mounting -/

namespace App

theorem flatMap_records_mountedActions (c : Controller) :
    (mountedActions c true).flatMap ActionDecl.records =
      ((mountedActions c false).flatMap ActionDecl.records).map
        (Registered.behind (Controller.routeStart c.name)) := by
  simp only [mountedActions, if_true, Bool.false_eq_true, if_false, List.flatMap_map,
    List.map_flatMap, ActionDecl.records, List.map_map]
  rfl

/-- Behind a name no template is blank. -/
theorem not_refused_of_mem_mountedActions {c : Controller} {d : ActionDecl}
    (h : d ∈ mountedActions c true) : ¬ d.Refused := by
  rintro ⟨-, hblank⟩
  obtain ⟨own, -, rfl⟩ := List.mem_map.1 h
  have hvisible := isBlankTemplate_of_slash
    (Controller.toList_mountedTemplate (Controller.routeStart c.name) own.template)
  exact absurd (hvisible.symm.trans hblank) Bool.false_ne_true

theorem mount_of_accepted {c : Controller} {withName : Bool}
    (h : ∀ d ∈ mountedActions c withName, ¬ d.Refused) (a : App) :
    a.mount c withName =
      (a.extend ((mountedActions c withName).flatMap ActionDecl.records), none) := by
  rw [mount, declareAll_eq, ActionDecl.takeWhile_of_accepted h, ActionDecl.find?_of_accepted h]
  rfl

theorem mount_withName_eq (a : App) (c : Controller) :
    a.mount c true = (a.extend ((mountedActions c true).flatMap ActionDecl.records), none) :=
  mount_of_accepted (fun _ => not_refused_of_mem_mountedActions) a

theorem mount_eq {c : Controller} (hblank : ∀ d ∈ c.actions, ¬ isBlankTemplate d.template = true)
    (a : App) (withName : Bool) :
    a.mount c withName =
      (a.extend ((mountedActions c withName).flatMap ActionDecl.records), none) := by
  apply mount_of_accepted
  intro d hd
  cases withName with
  | false => exact fun hrefused => hblank d hd hrefused.2
  | true => exact not_refused_of_mem_mountedActions hd

/-- A controller alone, mounted with its name and without.  Both applications have the same
    methods, and the same handlers in the same order under each.  A path behind the name is answered
    by the one as the path itself is by the other: the same place is selected with the same values,
    or the error is the same.  Other paths lead to no route of the first. -/
theorem mount_withName_answersAlike (c : Controller)
    (hstart : ¬ HoldsPlaceholder (Controller.routeStart c.name).toList)
    (hblank : ∀ d ∈ c.actions, ¬ isBlankTemplate d.template = true) :
    ∃ named plain : App,
      App.empty.mount c true = (named, none) ∧ App.empty.mount c false = (plain, none) ∧
      named.routes.methods = plain.routes.methods ∧
      named.routes.size = plain.routes.size ∧
      (∀ m, (named.routes.entriesFor m).map (·.handler) =
        (plain.routes.entriesFor m).map (·.handler)) ∧
      (∀ m (p : String), p.toList.head? = some '/' →
        named.routes.AnswersAlike ("/" ++ Controller.routeStart c.name ++ p) plain.routes p m) ∧
      (∀ m path, (∀ p : String, p.toList.head? = some '/' →
          path ≠ "/" ++ Controller.routeStart c.name ++ p) →
        ∀ found, named.routes.resolve path m ≠ .ok found) := by
  have hnamed := Table.Follows.empty.pushAll ((mountedActions c true).flatMap ActionDecl.records)
  have hplain := Table.Follows.empty.pushAll ((mountedActions c false).flatMap ActionDecl.records)
  rw [List.nil_append] at hnamed hplain
  rw [flatMap_records_mountedActions] at hnamed
  refine ⟨_, _, mount_eq hblank _ true, mount_eq hblank _ false, ?_⟩
  rw [flatMap_records_mountedActions]
  exact ⟨methods_behind hnamed hplain, size_behind hnamed hplain, handlers_behind hnamed hplain,
    fun m p _ => answersAlike_behind hnamed hplain hstart m p,
    fun m path hpath => resolve_behind_ne_ok hnamed hstart hpath m⟩

/-- A controller whose name ends in a brace, with a placeholder right behind it. -/
def braced : Controller :=
  ⟨"User\x7bController", [.single .get "\x7bid:int\x7d" fun _ _ => .crashed none]⟩

theorem mount_withName_answersAlike_brace :
    Controller.routeStart braced.name = "user\x7b" ∧
    ¬ HoldsPlaceholder "user\x7b".toList ∧
    ∃ named plain : App,
      App.empty.mount braced true = (named, none) ∧ App.empty.mount braced false = (plain, none) ∧
      named.routes.AnswersAlike "/user\x7b/7" plain.routes "/7" .get := by
  have hname : Controller.routeStart braced.name = "user\x7b" := by decide +kernel
  have hstart : ¬ HoldsPlaceholder "user\x7b".toList := by
    have hpieces : piecesOf "user\x7b".toList = [] ++ ("user\x7b".toList.map .char ++ []) := by
      decide +kernel
    exact not_holdsPlaceholder_of_piecesOf hpieces
  have hvisible : ∀ d ∈ braced.actions, ¬ isBlankTemplate d.template = true := by
    intro d hd
    obtain rfl := List.mem_singleton.1 hd
    decide +kernel
  obtain ⟨named, plain, hnamed, hplain, -, -, -, halike, -⟩ :=
    mount_withName_answersAlike braced (hname ▸ hstart) hvisible
  have hpath := halike .get "/7" (by decide)
  rw [hname] at hpath
  exact ⟨hname, hstart, named, plain, hnamed, hplain, hpath⟩

/-! ### Mounts that fail -/

theorem mount_withName_eq_none (a : App) (c : Controller) : (a.mount c true).2 = none := by
  rw [mount_withName_eq]

/-- Without the name, the first action that is refused decides. -/
theorem mount_withoutName_eq_some_iff (a : App) (c : Controller) (e : RouteError) :
    (a.mount c false).2 = some e ↔
      ∃ before d after, c.actions = before ++ d :: after ∧ (∀ b ∈ before, ¬ b.Refused) ∧
        d.Refused ∧ e = .blank d.template := by
  have hfails : (a.mount c false).2 =
      (c.actions.find? fun d => d.Refused).map fun d => .blank d.template := by
    rw [mount, declareAll_eq]
    rfl
  rw [hfails]
  constructor
  · intro h
    obtain ⟨d, hfirst, rfl⟩ := Option.map_eq_some_iff.1 h
    obtain ⟨hd, before, after, hactions, hbefore⟩ := List.find?_eq_some_iff_append.1 hfirst
    exact ⟨before, d, after, hactions, by simpa using hbefore, by simpa using hd, rfl⟩
  · rintro ⟨before, d, after, hactions, hbefore, hd, rfl⟩
    rw [hactions, ActionDecl.find?_of_refused hbefore hd]
    rfl

theorem mount_withoutName_eq_none_iff (a : App) (c : Controller) :
    (a.mount c false).2 = none ↔ ∀ d ∈ c.actions, ¬ d.Refused := by
  rw [Option.eq_none_iff_forall_ne_some]
  constructor
  · intro h
    rcases ActionDecl.accepted_or_split c.actions with haccepted | ⟨before, d, after, hsplit⟩
    · exact haccepted
    · exact absurd ((mount_withoutName_eq_some_iff a c _).2
        ⟨before, d, after, hsplit.1, hsplit.2.1, hsplit.2.2, rfl⟩) (h _)
  · intro haccepted e he
    obtain ⟨before, d, after, hactions, -, hd, -⟩ := (mount_withoutName_eq_some_iff a c e).1 he
    exact haccepted d (by simp [hactions]) hd

/-- Mounting fails just when an action with a method declares a blank template. -/
def ChecksDeclared (a : App) (c : Controller) (withName : Bool) : Prop :=
  (∃ e, (a.mount c withName).2 = some e) ↔ ∃ d ∈ c.actions, d.Refused

/-- **The name hides what is refused.**  Behind its name no controller is refused, since no template
    is blank there.  Without it the first blank template is the error.  So what a controller
    declares is checked both ways, and it is accepted or refused alike, only if there is nothing to
    refuse. -/
theorem mount_fails_iff (a : App) (c : Controller) :
    (∀ withName e, (a.mount c withName).2 = some e ↔
      withName = false ∧ ∃ before d after, c.actions = before ++ d :: after ∧
        (∀ b ∈ before, ¬ b.Refused) ∧ d.Refused ∧ e = .blank d.template) ∧
    a.ChecksDeclared c false ∧
    (a.ChecksDeclared c true ↔ ∀ d ∈ c.actions, ¬ d.Refused) ∧
    (((a.mount c true).2 = none ↔ (a.mount c false).2 = none) ↔ ∀ d ∈ c.actions, ¬ d.Refused) := by
  have hnamed := a.mount_withName_eq_none c
  have hplain := mount_withoutName_eq_none_iff a c
  refine ⟨fun withName e => ?_, ?_, ?_, ?_⟩
  · cases withName with
    | false => rw [mount_withoutName_eq_some_iff, eq_self, true_and]
    | true => simp [hnamed]
  · rw [ChecksDeclared, ← Option.isSome_iff_exists, ← Option.ne_none_iff_isSome, ne_eq, hplain]
    push Not
    rfl
  · rw [ChecksDeclared, hnamed]
    simp
  · rw [← hplain]
    simp only [hnamed, true_iff]

/-- A controller with one action, whose template is blank. -/
def blankPage : Controller :=
  ⟨"PageController", [.single .get "   " fun _ _ => .done (.text 200 "x")]⟩

theorem mount_withName_blank :
    (∃ d ∈ blankPage.actions, d.Refused) ∧
      (App.empty.mount blankPage true).2 = none ∧
      (App.empty.mount blankPage false).2 = some (.blank "   ") ∧
      ¬ App.empty.ChecksDeclared blankPage true := by
  have hrefused : ∃ d ∈ blankPage.actions, d.Refused := by
    refine ⟨_, List.mem_singleton.2 rfl, ?_⟩
    decide +kernel
  have hnamed := mount_withName_eq_none .empty blankPage
  refine ⟨hrefused, hnamed, by rfl, ?_⟩
  intro hchecks
  obtain ⟨e, he⟩ := hchecks.2 hrefused
  cases hnamed.symm.trans he

end App

end RouteServer
