import Mathlib.Data.List.Infix
import RouteServer.Proofs.App.Mounting
import RouteServer.Proofs.Route.OwnText

/-
  **Empty segments** — whether two slashes meet where a name stands in front of a route.

  A controller puts a slash, its name without `Controller` and the template one behind the other.
  The name holds no slash, so two slashes can only meet if nothing of it is left, and that is so for
  a single name: `Controller` itself (`routeStart_cases`).  What holds of the templates then holds
  of the paths.  A route without an empty segment is served under a path without one, namely its
  template with a digit for each placeholder (`samplePath`), while all paths of a route behind an
  empty name begin with two slashes.
-/

namespace RouteServer

open Route

namespace Route

variable {c : Char} {s x path template : List Char}

/-- Two slashes stand side by side. -/
def HoldsEmptySegment (s : List Char) : Prop := ['/', '/'] <:+: s

instance (s : List Char) : Decidable (HoldsEmptySegment s) :=
  inferInstanceAs (Decidable (_ <:+: _))

theorem holdsEmptySegment_cons_iff :
    HoldsEmptySegment (c :: s) ↔ (c = '/' ∧ s.head? = some '/') ∨ HoldsEmptySegment s := by
  rw [HoldsEmptySegment, List.infix_cons_iff, HoldsEmptySegment]
  refine or_congr ?_ Iff.rfl
  cases s with
  | nil => simp
  | cons d s => simp [eq_comm]

theorem holdsEmptySegment_append_iff (hx : '/' ∉ x) :
    HoldsEmptySegment (x ++ s) ↔ HoldsEmptySegment s := by
  induction x with
  | nil => exact Iff.rfl
  | cons c x ih =>
    obtain ⟨hc, hx⟩ := List.ne_and_not_mem_of_not_mem_cons hx
    rw [List.cons_append, holdsEmptySegment_cons_iff, ih hx]
    constructor
    · rintro (⟨rfl, -⟩ | hs)
      · exact absurd rfl hc
      · exact hs
    · exact Or.inr

/-- A text between two slashes keeps them apart. -/
theorem holdsEmptySegment_between_iff (hx : '/' ∉ x) (hne : x ≠ []) :
    HoldsEmptySegment ('/' :: (x ++ s)) ↔ HoldsEmptySegment s := by
  obtain ⟨c, y, rfl⟩ := List.exists_cons_of_ne_nil hne
  have hc := (List.ne_and_not_mem_of_not_mem_cons hx).1
  rw [holdsEmptySegment_cons_iff, holdsEmptySegment_append_iff hx]
  constructor
  · rintro (⟨-, hfront⟩ | hs)
    · exact absurd (Option.some.inj hfront).symm hc
    · exact hs
  · exact Or.inr

/-! ### A path for each route -/

/-- A text that the segment accepts. -/
def Segment.sample : Segment → List Char
  | .literal text => text.toList
  | .capture _ => ['1']

def samplePath (segments : List Segment) : List Char := segments.flatMap Segment.sample

theorem exists_fits_samplePath (segments : List Segment) :
    ∃ vs, Fits segments (samplePath segments) vs := by
  induction segments with
  | nil => exact ⟨[], .done (Or.inl rfl)⟩
  | cons segment segments ih =>
    obtain ⟨vs, hfits⟩ := ih
    cases segment with
    | literal text => exact ⟨vs, .literal hfits⟩
    | capture p =>
      have hdigit : p.kind.Captures ['1'] := by
        refine ⟨?_, fun _ => List.cons_ne_nil _ _⟩
        intro c hc
        obtain rfl := List.mem_singleton.1 hc
        cases p.kind <;> rfl
      exact ⟨['1'] :: vs, .capture hdigit hfits⟩

/-- The slashes of the path are slashes of the template, with the same neighbours. -/
structure KeepsSlashes (path template : List Char) : Prop where
  inside : HoldsEmptySegment path → HoldsEmptySegment template
  front : path.head? = some '/' → template.head? = some '/'

namespace KeepsSlashes

theorem cons (h : KeepsSlashes path template) (c : Char) :
    KeepsSlashes (c :: path) (c :: template) := by
  constructor
  · rw [holdsEmptySegment_cons_iff, holdsEmptySegment_cons_iff]
    exact Or.imp (And.imp_right h.front) h.inside
  · exact id

theorem literal (h : KeepsSlashes path template) (text : List Char) :
    KeepsSlashes (text ++ path) (text ++ template) := by
  induction text with
  | nil => exact h
  | cons c text ih => exact ih.cons c

/-- Where the template has a placeholder, the path has a digit and no slash. -/
theorem capture (h : KeepsSlashes path template) (p : Placeholder) :
    KeepsSlashes ('1' :: path) (p.print ++ template) := by
  constructor
  · rw [holdsEmptySegment_cons_iff]
    rintro (⟨hdigit, -⟩ | hpath)
    · exact absurd hdigit (by decide)
    · exact List.infix_append_of_infix_right (h.inside hpath)
  · intro hdigit
    exact absurd (Option.some.inj hdigit) (by decide)

end KeepsSlashes

theorem keepsSlashes_samplePath (segments : List Segment) :
    KeepsSlashes (samplePath segments) (segments.flatMap Segment.print) := by
  induction segments with
  | nil => exact ⟨id, id⟩
  | cons segment segments ih =>
    cases segment with
    | literal text => exact ih.literal text.toList
    | capture p => exact ih.capture p

/-- Some path without an empty segment leads to the route. -/
def Pattern.ServedPlainly (p : Pattern) : Prop :=
  ∃ path : String, ¬ HoldsEmptySegment path.toList ∧ (p.captures path).isSome = true

theorem servedPlainly_of_not_holdsEmptySegment {t : String}
    (h : ¬ HoldsEmptySegment (normalize t).toList) : (Pattern.ofTemplate t).ServedPlainly := by
  refine ⟨String.ofList (samplePath (Pattern.ofTemplate t).segments), ?_, ?_⟩
  · intro hpath
    rw [String.toList_ofList] at hpath
    have htemplate := (keepsSlashes_samplePath _).inside hpath
    rw [Pattern.ofTemplate, flatMap_print_parseTemplate] at htemplate
    exact h htemplate
  · rw [Pattern.isSome_captures_iff, String.toList_ofList]
    exact exists_fits_samplePath _

end Route

/-! ### What is left of a name -/

namespace Controller

/-- Of the name `Controller` nothing is left, and of any other its first letter and what follows. -/
theorem routeStart_cases {name : String} (hname : name ≠ "") :
    name = "Controller" ∧ routeStart name = "" ∨
      name ≠ "Controller" ∧ ∃ c r, (∀ d ∈ c :: r, d ∈ name.toList) ∧
        (routeStart name).toList = Text.lowerCase c ++ r := by
  cases hend : Text.stripEnd "Controller".toList name.toList with
  | none =>
    have hother : name ≠ "Controller" := by
      rintro rfl
      rw [Text.stripEnd_eq_some_iff.2 (List.nil_append _).symm] at hend
      cases hend
    cases hlist : name.toList with
    | nil => exact absurd (String.toList_eq_nil_iff.1 hlist) hname
    | cons c r =>
      refine Or.inr ⟨hother, c, r, fun d hd => hd, ?_⟩
      rw [routeStart, hend, Option.getD_none, hlist, String.toList_ofList]
  | some base =>
    have hsplit := Text.stripEnd_eq_some_iff.1 hend
    cases base with
    | nil =>
      refine Or.inl ⟨String.ext hsplit, ?_⟩
      rw [routeStart, hend]
      rfl
    | cons c r =>
      refine Or.inr ⟨?_, c, r, ?_, ?_⟩
      · rintro rfl
        have hlength := congrArg List.length hsplit
        rw [List.length_append, List.length_cons] at hlength
        omega
      · intro d hd
        rw [hsplit]
        exact List.mem_append_left _ hd
      · rw [routeStart, hend, Option.getD_some, String.toList_ofList]

theorem holdsEmptySegment_behind_empty (t : String) :
    HoldsEmptySegment (mountedTemplate "" t).toList := by
  obtain ⟨r, hr⟩ := exists_normalize_eq t
  rw [toList_mountedTemplate, hr]
  exact holdsEmptySegment_cons_iff.2 (Or.inl ⟨rfl, rfl⟩)

/-- The first slash of the template is literal text, so every path has to repeat it. -/
theorem not_servedPlainly_behind_empty (t : String) :
    ¬ (Pattern.ofTemplate (mountedTemplate "" t)).ServedPlainly := by
  rintro ⟨path, hplain, hsome⟩
  obtain ⟨vs, hvs⟩ := Option.isSome_iff_exists.1 hsome
  have hfront : ¬ HoldsPlaceholder "/".toList :=
    not_holdsPlaceholder_slash_cons not_holdsPlaceholder_nil
  have hnormal : normalize (mountedTemplate "" t) = "/" ++ normalize t := by
    rw [normalize_mountedTemplate, String.append_empty]
  obtain ⟨p, hslash, rfl⟩ := Pattern.exists_eq_of_captures hfront hnormal hvs
  apply hplain
  rw [String.toList_append]
  exact holdsEmptySegment_cons_iff.2 (Or.inl ⟨rfl, hslash⟩)

theorem holdsEmptySegment_behind_iff {c : Char} {r : List Char} {start : String}
    (hstart : start.toList = Text.lowerCase c ++ r) (hslash : '/' ∉ c :: r) (t : String) :
    HoldsEmptySegment (mountedTemplate start t).toList ↔
      HoldsEmptySegment (normalize t).toList := by
  obtain ⟨hc, hr⟩ := List.ne_and_not_mem_of_not_mem_cons hslash
  have hletters : '/' ∉ Text.lowerCase c ++ r := by
    rw [List.mem_append, not_or, Text.mem_lowerCase_iff (by decide)]
    exact ⟨hc, hr⟩
  rw [toList_mountedTemplate, hstart]
  exact holdsEmptySegment_between_iff hletters fun hnil =>
    Text.lowerCase_ne_nil c (List.append_eq_nil_iff.1 hnil).1

end Controller

/-! ### Mounted routes -/

namespace App

theorem mem_entriesFor_mount_withName {c : Controller} {d : ActionDecl} {m : Method}
    (hd : d ∈ c.actions) (hm : m ∈ d.methods) (a : App) :
    .ofPattern (.ofTemplate (Controller.mountedTemplate (Controller.routeStart c.name) d.template))
      d.action ∈ (a.mount c true).1.routes.entriesFor m := by
  rw [mount_withName_eq, extend, Table.entriesFor_pushAll, List.mem_append]
  refine Or.inr (List.mem_map.2 ⟨⟨m, Controller.mountedTemplate _ d.template, d.action⟩, ?_, rfl⟩)
  rw [List.mem_filter]
  refine ⟨List.mem_flatMap.2 ⟨_, List.mem_map_of_mem hd, ?_⟩, by simp⟩
  exact List.mem_map_of_mem hm

/-- **A name keeps the slashes apart, unless nothing is left of it.**  Behind a name without slashes
    a template without an empty segment has none either, and its action is served under a path
    without one.  The name `Controller` alone is the exception: the template then begins with two
    slashes, and so does every path that leads to the action. -/
theorem mountedTemplate_emptySegment_iff (name t : String) (hname : name ≠ "")
    (hslash : '/' ∉ name.toList) (hplain : ¬ HoldsEmptySegment (normalize t).toList) :
    (HoldsEmptySegment (Controller.mountedTemplate (Controller.routeStart name) t).toList ↔
      name = "Controller") ∧
    ((Pattern.ofTemplate
        (Controller.mountedTemplate (Controller.routeStart name) t)).ServedPlainly ↔
      name ≠ "Controller") ∧
    (∀ (a : App) (c : Controller) d m,
      c.name = name → d ∈ c.actions → d.template = t → m ∈ d.methods →
      .ofPattern (.ofTemplate (Controller.mountedTemplate (Controller.routeStart name) t))
        d.action ∈ (a.mount c true).1.routes.entriesFor m) := by
  have hmounted (a : App) (c : Controller) (d : ActionDecl) (m : Method) (hc : c.name = name)
      (hd : d ∈ c.actions) (ht : d.template = t) (hm : m ∈ d.methods) :
      .ofPattern (.ofTemplate (Controller.mountedTemplate (Controller.routeStart name) t))
        d.action ∈ (a.mount c true).1.routes.entriesFor m := by
    rw [← hc, ← ht]
    exact mem_entriesFor_mount_withName hd hm a
  rcases Controller.routeStart_cases hname with ⟨hsuffix, hstart⟩ | ⟨hother, c, r, hmem, hstart⟩
  · have hserved := Controller.not_servedPlainly_behind_empty t
    rw [hstart] at hmounted ⊢
    exact ⟨iff_of_true (Controller.holdsEmptySegment_behind_empty t) hsuffix,
      iff_of_false hserved (not_not_intro hsuffix), hmounted⟩
  · have hletters : '/' ∉ c :: r := fun hin => hslash (hmem _ hin)
    have hkept := (Controller.holdsEmptySegment_behind_iff hstart hletters t).not.2 hplain
    -- a mounted template begins with a slash, so it is compiled as it stands
    have hserved := servedPlainly_of_not_holdsEmptySegment
      (t := Controller.mountedTemplate (Controller.routeStart name) t)
    rw [normalize_of_slash (Controller.toList_mountedTemplate _ t)] at hserved
    exact ⟨iff_of_false hkept hother, iff_of_true (hserved hkept) hother, hmounted⟩

/-- A name that is the suffix twice, with a placeholder right behind it. -/
theorem mountedTemplate_emptySegment_iff_twice :
    '/' ∉ "ControllerController".toList ∧
    ¬ HoldsEmptySegment (normalize "{id:int}/edit").toList ∧
    Controller.mountedTemplate (Controller.routeStart "ControllerController")
      "{id:int}/edit" = "/controller/{id:int}/edit" ∧
    ¬ HoldsEmptySegment "/controller/{id:int}/edit".toList ∧
    (Pattern.ofTemplate "/controller/{id:int}/edit").ServedPlainly := by
  have hslash : '/' ∉ "ControllerController".toList := by decide +kernel
  have hplain : ¬ HoldsEmptySegment (normalize "{id:int}/edit").toList := by decide +kernel
  have hmounted : Controller.mountedTemplate (Controller.routeStart "ControllerController")
      "{id:int}/edit" = "/controller/{id:int}/edit" := by decide +kernel
  obtain ⟨hsegment, hserved, -⟩ := mountedTemplate_emptySegment_iff "ControllerController"
    "{id:int}/edit" (by decide) hslash hplain
  rw [hmounted] at hsegment hserved
  exact ⟨hslash, hplain, hmounted, fun h => absurd (hsegment.1 h) (by decide),
    hserved.2 (by decide)⟩

/-- A controller of which nothing but the suffix is there to be named. -/
def unnamed : Controller := ⟨"Controller", [.single .get "/x" fun _ _ => .done (.text 200 "x")]⟩

theorem mountedTemplate_unnamed :
    unnamed.name ≠ "" ∧ '/' ∉ unnamed.name.toList ∧
    isBlankTemplate "/x" = false ∧ ¬ HoldsEmptySegment (normalize "/x").toList ∧
    HoldsEmptySegment
      (Controller.mountedTemplate (Controller.routeStart unnamed.name) "/x").toList ∧
    ((empty.mount unnamed true).1.routes.entriesFor .get).map (·.pattern.template) = ["//x"] ∧
    ((empty.mount unnamed true).1.routes.resolve "/x" .get).toOption.isNone = true := by
  decide +kernel

end App

end RouteServer
