import Mathlib.Data.List.Count
import RouteServer.Proofs.App.Mounting
import RouteServer.Proofs.Route.Shadowing

/-
  **The methods of an action** — each is answered once, however often it is mentioned.

  An action is declared under its own verb, and every further call adds the methods of a list that
  are not there yet.  The invariant is that the methods so far are the mentioned ones without
  repetitions (`foldl_also`).  An action without repetitions has one record under each of its
  methods and none under another (`filter_records`), so mounting a controller gives every method one
  entry for each action that mentions it.
-/

namespace RouteServer

open Route

/-- An action under a verb, and the lists of methods added to it, one call after another. -/
structure ActionDecl.Chain where
  verb : Method
  template : String
  action : Action
  calls : List (List Method)

namespace ActionDecl.Chain

def decl (c : Chain) : ActionDecl := c.calls.foldl also (single c.verb c.template c.action)

/-- Every mention of a method, in order. -/
def mentioned (c : Chain) : List Method := c.verb :: c.calls.flatten

end ActionDecl.Chain

/-! ### Adding methods -/

section Lists

variable {α : Type} [DecidableEq α] {l more : List α}

theorem pairwise_idxOf_eraseDups (l : List α) :
    l.eraseDups.Pairwise fun a b => l.idxOf a < l.idxOf b := by
  -- from the back, where a new mention moves none of the first ones
  induction l using List.reverseRecOn with
  | nil => exact .nil
  | append_singleton l a ih =>
    have hstays : ∀ b ∈ l.eraseDups, (l ++ [a]).idxOf b = l.idxOf b := by
      intro b hb
      exact List.idxOf_append_of_mem (List.mem_eraseDups.1 hb)
    have hfront : l.eraseDups.Pairwise fun b c => (l ++ [a]).idxOf b < (l ++ [a]).idxOf c := by
      apply ih.imp_of_mem
      intro b c hb hc hlt
      rwa [hstays b hb, hstays c hc]
    rw [eraseDups_concat]
    split
    · exact hfront
    · rename_i hnew
      refine List.pairwise_append.2 ⟨hfront, List.pairwise_singleton _ _, ?_⟩
      intro b hb c hc
      obtain rfl := List.mem_singleton.1 hc
      rw [hstays b hb, List.idxOf_append_of_notMem hnew]
      exact Nat.lt_add_right _ (List.idxOf_lt_length_of_mem (List.mem_eraseDups.1 hb))

theorem eraseDups_append_append_of_subset (h : ∀ a ∈ more, a ∈ l) (rest : List α) :
    (l ++ (more ++ rest)).eraseDups = (l ++ rest).eraseDups := by
  induction more with
  | nil => rfl
  | cons a more ih =>
    obtain ⟨ha, hmore⟩ := List.forall_mem_cons.1 h
    rw [List.cons_append, eraseDups_append_cons_of_mem ha, ih hmore]

end Lists

namespace ActionDecl

variable {d : ActionDecl}

theorem foldl_addMethod (ms more : List Method) :
    more.foldl addMethod ms.eraseDups = (ms ++ more).eraseDups := by
  induction more generalizing ms with
  | nil => rw [List.foldl_nil, List.append_nil]
  | cons m more ih =>
    have hstep : addMethod ms.eraseDups m = (ms ++ [m]).eraseDups := by
      rw [addMethod, eraseDups_concat]
      simp only [List.mem_eraseDups]
    rw [List.foldl_cons, hstep, ih, List.append_assoc, List.singleton_append]

/-- The invariant of a chain: behind every call the methods are those mentioned so far. -/
theorem foldl_also (template : String) (action : Action) (ms : List Method)
    (calls : List (List Method)) :
    calls.foldl also ⟨template, ms.eraseDups, action⟩ =
      ⟨template, (ms ++ calls.flatten).eraseDups, action⟩ := by
  induction calls generalizing ms with
  | nil => rw [List.foldl_nil, List.flatten_nil, List.append_nil]
  | cons more calls ih =>
    have hstep : also ⟨template, ms.eraseDups, action⟩ more =
        ⟨template, (ms ++ more).eraseDups, action⟩ := by
      rw [also, foldl_addMethod]
    rw [List.foldl_cons, hstep, ih, List.flatten_cons, List.append_assoc]

namespace Chain

theorem decl_eq (c : Chain) : c.decl = ⟨c.template, c.mentioned.eraseDups, c.action⟩ := by
  have hverb : single c.verb c.template c.action = ⟨c.template, [c.verb].eraseDups, c.action⟩ := by
    rfl
  rw [decl, hverb, foldl_also]
  rfl

theorem methods_decl (c : Chain) : c.decl.methods = c.mentioned.eraseDups := by
  rw [decl_eq]

theorem mem_methods_decl {c : Chain} {m : Method} : m ∈ c.decl.methods ↔ m ∈ c.mentioned := by
  rw [methods_decl, List.mem_eraseDups]

theorem nodup_methods_decl (c : Chain) : c.decl.methods.Nodup := by
  rw [methods_decl]
  exact nodup_eraseDups _

/-- A list that was added before adds nothing, wherever the call is repeated. -/
theorem decl_repeated {c : Chain} {earlier later : List (List Method)} {ms : List Method}
    (hcalls : c.calls = earlier ++ later) (hms : ms ∈ earlier) :
    { c with calls := earlier ++ ms :: later }.decl = c.decl := by
  have hmentioned : ∀ m ∈ ms, m ∈ c.verb :: earlier.flatten := by
    intro m hm
    exact List.mem_cons_of_mem _ (List.mem_flatten.2 ⟨ms, hms, hm⟩)
  -- the calls behind the repeated one are what follows in both lists of mentions
  have hsame := eraseDups_append_append_of_subset hmentioned later.flatten
  rw [decl_eq, decl_eq, mentioned, mentioned, hcalls]
  simp only [List.flatten_append, List.flatten_cons]
  rw [← List.cons_append, ← List.cons_append, hsame]

/-- The methods of a chain, told apart from all other lists. -/
structure ListsOnce (c : Chain) : Prop where
  nodup : c.decl.methods.Nodup
  head : c.decl.methods.head? = some c.verb
  mem : ∀ m, m ∈ c.decl.methods ↔ m = c.verb ∨ ∃ ms ∈ c.calls, m ∈ ms
  /-- the order is that of the first mention -/
  order : c.decl.methods.Pairwise fun m n => c.mentioned.idxOf m < c.mentioned.idxOf n
  repeated : ∀ earlier ms later, c.calls = earlier ++ later → ms ∈ earlier →
    { c with calls := earlier ++ ms :: later }.decl = c.decl

theorem listsOnce (c : Chain) : c.ListsOnce where
  nodup := c.nodup_methods_decl
  head := by rw [methods_decl, mentioned, List.eraseDups_cons, List.head?_cons]
  mem m := by rw [mem_methods_decl, mentioned, List.mem_cons, List.mem_flatten]
  order := by
    rw [methods_decl]
    exact pairwise_idxOf_eraseDups _
  repeated _ _ _ := decl_repeated

end Chain

/-! ### Records under one method -/

theorem filter_records (h : d.methods.Nodup) (m : Method) :
    d.records.filter (·.method = m) =
      if m ∈ d.methods then [⟨m, d.template, d.action⟩] else [] := by
  have hmethods : d.methods.filter (· = m) = if m ∈ d.methods then [m] else [] := by
    rw [List.filter_eq, h.count]
    split <;> rfl
  rw [records, List.filter_map, Function.comp_def, hmethods]
  split <;> rfl

theorem filter_flatMap_records {ds : List ActionDecl} (h : ∀ d ∈ ds, d.methods.Nodup) (m : Method) :
    (ds.flatMap records).filter (·.method = m) =
      (ds.filter (m ∈ ·.methods)).map fun d => ⟨m, d.template, d.action⟩ := by
  induction ds with
  | nil => rfl
  | cons d ds ih =>
    obtain ⟨hd, hds⟩ := List.forall_mem_cons.1 h
    rw [List.flatMap_cons, List.filter_append, filter_records hd, ih hds]
    by_cases hm : m ∈ d.methods
    · rw [if_pos hm, List.filter_cons_of_pos (by simpa using hm)]
      rfl
    · rw [if_neg hm, List.filter_cons_of_neg (by simpa using hm), List.nil_append]

end ActionDecl

/-! ### Mounted actions -/

/-- The template under which a controller of this name serves an action. -/
def Controller.servedTemplate (name : String) (withName : Bool) (template : String) : String :=
  if withName then mountedTemplate (routeStart name) template else template

namespace App

theorem mountedActions_eq_map (c : Controller) (withName : Bool) :
    mountedActions c withName = c.actions.map fun d =>
      { d with template := Controller.servedTemplate c.name withName d.template } := by
  cases withName with
  | true => rfl
  | false => exact (List.map_id' c.actions).symm

theorem exists_routes_of_mount {c : Controller}
    (hblank : ∀ d ∈ c.actions, ¬ isBlankTemplate d.template = true)
    (hnodup : ∀ d ∈ c.actions, d.methods.Nodup) (a : App) (withName : Bool) :
    ∃ routes, a.mount c withName = ({ a with routes }, none) ∧
      ∀ m, routes.entriesFor m = a.routes.entriesFor m ++
        (c.actions.filter (m ∈ ·.methods)).map fun d =>
          .ofPattern (.ofTemplate (Controller.servedTemplate c.name withName d.template))
            d.action := by
  have hmounted : ∀ d ∈ mountedActions c withName, d.methods.Nodup := by
    rw [mountedActions_eq_map]
    exact List.forall_mem_map.2 hnodup
  refine ⟨_, mount_eq hblank a withName, fun m => ?_⟩
  rw [Table.entriesFor_pushAll, ActionDecl.filter_flatMap_records hmounted, mountedActions_eq_map,
    List.filter_map, List.map_map, List.map_map]
  rfl

/-- **Every method is listed once and answered once.**  The methods of an action are its verb and
    all that further calls list, in the order of their first mention, and a call that is repeated
    changes nothing.  A controller of such actions, none of them with a blank template, is mounted
    as a whole: each method gains one entry for every action that mentions it, in the order of the
    actions. -/
theorem mount_chains :
    (∀ c : ActionDecl.Chain, c.ListsOnce) ∧
    ∀ (a : App) (name : String) (withName : Bool) (chains : List ActionDecl.Chain),
      (∀ c ∈ chains, ¬ isBlankTemplate c.template = true) →
      ∃ routes,
        a.mount ⟨name, chains.map ActionDecl.Chain.decl⟩ withName = ({ a with routes }, none) ∧
        ∀ m, routes.entriesFor m = a.routes.entriesFor m ++
          (chains.filter (m ∈ ·.mentioned)).map fun c =>
            .ofPattern (.ofTemplate (Controller.servedTemplate name withName c.template))
              c.action := by
  refine ⟨ActionDecl.Chain.listsOnce, fun a name withName chains hvisible => ?_⟩
  have hblank : ∀ d ∈ chains.map ActionDecl.Chain.decl, ¬ isBlankTemplate d.template = true := by
    intro d hd
    obtain ⟨c, hc, rfl⟩ := List.mem_map.1 hd
    rw [ActionDecl.Chain.decl_eq]
    exact hvisible c hc
  have hnodup : ∀ d ∈ chains.map ActionDecl.Chain.decl, d.methods.Nodup := by
    intro d hd
    obtain ⟨c, -, rfl⟩ := List.mem_map.1 hd
    exact c.nodup_methods_decl
  obtain ⟨routes, hmount, hentries⟩ :=
    exists_routes_of_mount (c := ⟨name, chains.map ActionDecl.Chain.decl⟩) hblank hnodup a withName
  refine ⟨routes, hmount, fun m => ?_⟩
  rw [hentries m, List.filter_map, List.map_map]
  simp only [Function.comp_def, ActionDecl.Chain.decl_eq, List.mem_eraseDups]

/-- A page that mentions its methods again and again, and an action behind it. -/
def mentions : List ActionDecl.Chain :=
  [⟨.get, "/page", fun _ _ => .crashed none, [[.head, .get], [.post, .head, .post], [.head, .get]]⟩,
    ⟨.post, "save", fun _ _ => .crashed none, []⟩]

theorem mount_chains_mentions :
    (∀ c ∈ mentions, ¬ isBlankTemplate c.template = true) ∧
    (∀ c ∈ mentions.head?, c.decl.methods = [.get, .head, .post] ∧
      { c with calls := [[.head, .get], [.post, .head, .post]] }.decl = c.decl) ∧
    ∃ routes, empty.mount ⟨"UserController", mentions.map ActionDecl.Chain.decl⟩ true =
        (⟨routes, defaultNotFoundRoute⟩, none) ∧
      (routes.entriesFor .post).map (·.pattern.template) = ["/user/page", "/user/save"] ∧
      (routes.entriesFor .head).map (·.pattern.template) = ["/user/page"] := by
  obtain ⟨honce, hmount⟩ := mount_chains
  have hvisible : ∀ c ∈ mentions, ¬ isBlankTemplate c.template = true := by decide +kernel
  obtain ⟨routes, hroutes, hentries⟩ := hmount empty "UserController" true mentions hvisible
  refine ⟨hvisible, ?_, routes, hroutes, ?_, ?_⟩
  · intro c hc
    obtain rfl := Option.some.inj hc
    have hrepeated := (honce ⟨.get, "/page", fun _ _ => .crashed none,
      [[.head, .get], [.post, .head, .post]]⟩).repeated [[.head, .get], [.post, .head, .post]]
      [.head, .get] [] rfl List.mem_cons_self
    exact ⟨by decide +kernel, hrepeated.symm⟩
  · rw [hentries]
    decide +kernel
  · rw [hentries]
    decide +kernel

end App

end RouteServer
