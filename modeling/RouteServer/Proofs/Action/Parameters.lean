import RouteServer.Proofs.Action.Access
import RouteServer.Proofs.App.Declarations
import RouteServer.Proofs.Route.Matching
import RouteServer.Proofs.Route.Resolution
import Mathlib.Data.List.Forall2

/-
  **What an action finds in its path parameters** — a value for each placeholder of its route, in
  the order of the template and of the declared type.

  Matching cuts a path into one text for each capture segment, so the values stand in pairs with the
  placeholders (`Matched`).  From that the accessors follow: a position has a value just when the
  template has a placeholder there, and reading an integer can only fail because the text is empty
  or its value too great.
-/

namespace RouteServer

open Route

/-! ### Values in pairs with placeholders -/

theorem Route.forall₂_captures_of_fits {segments : List Segment} {s : List Char}
    {vs : List (List Char)} (h : Fits segments s vs) :
    List.Forall₂ (fun p v => p.kind.Captures v) (placeholders segments) vs := by
  induction h with
  | done _ => exact .nil
  | literal _ ih => exact ih
  | capture hx _ ih => exact .cons hx ih

namespace PathParams

/-- Each placeholder has a value of its type. -/
def Matched (p : PathParams) : Prop :=
  List.Forall₂ (fun spec value => spec.kind.Captures value.toList) p.specs p.values

theorem matched_of_captures {pattern : Pattern} {path : String} {values : List String}
    (h : pattern.captures path = some values) : Matched ⟨values, pattern.params⟩ := by
  have hfits := (Pattern.captures_eq_some_iff.1 h).1
  exact List.forall₂_map_right_iff.1 (forall₂_captures_of_fits hfits)

variable {p : PathParams}

theorem Matched.length_eq (h : p.Matched) : p.values.length = p.specs.length :=
  (List.Forall₂.length_eq h).symm

theorem Matched.exists_value (h : p.Matched) {i : Nat} {spec : Placeholder}
    (hspec : p.specs[i]? = some spec) :
    ∃ value, p.values[i]? = some value ∧ spec.kind.Captures value.toList := by
  obtain ⟨hi, rfl⟩ := List.getElem?_eq_some_iff.1 hspec
  have hi' : i < p.values.length := by rwa [h.length_eq]
  exact ⟨p.values[i], List.getElem?_eq_getElem hi', h.get hi hi'⟩

/-! ### The accessors -/

theorem Matched.exists_text_iff (h : p.Matched) {i : Nat} :
    (∃ value, p.text i = .ok value) ↔ i < p.specs.length := by
  simp only [text_eq_ok_iff, ← h.length_eq]
  constructor
  · rintro ⟨value, hvalue⟩
    exact (List.getElem?_eq_some_iff.1 hvalue).1
  · intro hi
    exact ⟨p.values[i], List.getElem?_eq_getElem hi⟩

/-- Every placeholder has a value, so a name stands wherever it is declared. -/
theorem Matched.named_iff (h : p.Matched) {name : String} {i : Nat} :
    p.Named name i ↔ ∃ spec, p.specs[i]? = some spec ∧ spec.name = name := by
  constructor
  · exact fun hi => hi.2
  · rintro ⟨spec, hspec, hname⟩
    have hi := (List.getElem?_eq_some_iff.1 hspec).1
    exact ⟨by rwa [h.length_eq], spec, hspec, hname⟩

/-- Of the placeholders with a name, the last one counts. -/
theorem Matched.get?_eq_of_last (h : p.Matched) {i : Nat} {spec : Placeholder}
    (hspec : p.specs[i]? = some spec)
    (hlater : ∀ j other, i < j → p.specs[j]? = some other → other.name ≠ spec.name) :
    p.get? spec.name = p.values[i]? := by
  obtain ⟨value, hvalue, -⟩ := h.exists_value hspec
  rw [hvalue]
  refine get?_eq_some_iff.2 ⟨i, hvalue, h.named_iff.2 ⟨spec, hspec, rfl⟩, ?_⟩
  intro j hj
  obtain ⟨other, hother, hname⟩ := h.named_iff.1 hj
  rcases Nat.lt_or_ge i j with hij | hij
  · exact absurd hname (hlater j other hij hother)
  · exact hij

theorem Matched.get?_eq_none_iff (h : p.Matched) {name : String} :
    p.get? name = none ↔ ∀ spec ∈ p.specs, spec.name ≠ name := by
  rw [PathParams.get?_eq_none_iff]
  constructor
  · intro hnone spec hmem hname
    obtain ⟨i, hi⟩ := List.mem_iff_getElem?.1 hmem
    exact hnone i (h.named_iff.2 ⟨spec, hi, hname⟩)
  · intro hnone i hi
    obtain ⟨spec, hspec, hname⟩ := h.named_iff.1 hi
    exact hnone spec (List.mem_of_getElem? hspec) hname

theorem int_eq_of_digits {i : Nat} {value : String} {spec : Placeholder}
    (hvalue : p.values[i]? = some value) (hspec : p.specs[i]? = some spec)
    (hdigits : ∀ c ∈ value.toList, c.isDigit = true) :
    p.int i =
      if value ≠ "" ∧ Text.Numeral.decimalValue value.toList ≤ 2 ^ 63 - 1 then
        .ok (Text.Numeral.decimalValue value.toList : Int)
      else .error (.notAnInteger spec.name value) := by
  have hname : p.nameAt i = spec.name := by simp [nameAt, hspec]
  have hwrites : ∀ n, Text.Numeral.WritesInteger value.toList n ↔
      value ≠ "" ∧ n = Text.Numeral.decimalValue value.toList := by
    intro n
    rw [Text.Numeral.writesInteger_of_digits hdigits, ne_eq, String.toList_eq_nil_iff]
  have hfits : Text.Numeral.Fits64 (Text.Numeral.decimalValue value.toList) ↔
      Text.Numeral.decimalValue value.toList ≤ 2 ^ 63 - 1 := by
    rw [Text.Numeral.Fits64]
    omega
  by_cases hread : value ≠ "" ∧ Text.Numeral.decimalValue value.toList ≤ 2 ^ 63 - 1
  · rw [if_pos hread]
    exact int_of_writes hvalue ((hwrites _).2 ⟨hread.1, rfl⟩) (hfits.2 hread.2)
  · rw [if_neg hread, ← hname]
    apply int_of_not_writes hvalue
    intro n hn hrange
    obtain ⟨hne, rfl⟩ := (hwrites n).1 hn
    exact hread ⟨hne, hfits.1 hrange⟩

/-- What an action can rely on in its parameters, given the placeholders of its route. -/
structure Reliable (p : PathParams) (declared : List Placeholder) : Prop where
  specs : p.specs = declared
  length : p.values.length = declared.length
  int_value : ∀ (i : Nat) spec value, declared[i]? = some spec → p.values[i]? = some value →
    spec.kind = .int → ∀ c ∈ value.toList, c.isDigit = true
  str_value : ∀ (i : Nat) spec value, declared[i]? = some spec → p.values[i]? = some value →
    spec.kind = .str → value ≠ "" ∧ ∀ c ∈ value.toList, c.isAlphanum = true ∨ c = '_'
  text : ∀ i value, p.text i = .ok value ↔ p.values[i]? = some value
  exists_text : ∀ i, (∃ value, p.text i = .ok value) ↔ i < declared.length
  get?_none : ∀ name, p.get? name = none ↔ ∀ spec ∈ declared, spec.name ≠ name
  /-- of two placeholders with one name the later counts -/
  get?_last : ∀ (i : Nat) spec, declared[i]? = some spec →
    (∀ (j : Nat) other, i < j → declared[j]? = some other → other.name ≠ spec.name) →
    p.get? spec.name = p.values[i]?
  int : ∀ (i : Nat) spec value, declared[i]? = some spec → p.values[i]? = some value →
    spec.kind = .int →
    p.int i =
      if value ≠ "" ∧ Text.Numeral.decimalValue value.toList ≤ 2 ^ 63 - 1 then
        .ok (Text.Numeral.decimalValue value.toList : Int)
      else .error (.notAnInteger spec.name value)

theorem Matched.captures (h : p.Matched) {i : Nat} {spec : Placeholder} {value : String}
    (hspec : p.specs[i]? = some spec) (hvalue : p.values[i]? = some value) :
    spec.kind.Captures value.toList := by
  obtain ⟨other, hother, hcaptures⟩ := h.exists_value hspec
  obtain rfl := Option.some.inj (hvalue.symm.trans hother)
  exact hcaptures

theorem Matched.reliable (h : p.Matched) : p.Reliable p.specs where
  specs := rfl
  length := h.length_eq
  int_value := by
    intro i spec value hspec hvalue hkind
    obtain ⟨hchars, -⟩ := h.captures hspec hvalue
    rwa [hkind] at hchars
  str_value := by
    intro i spec value hspec hvalue hkind
    obtain ⟨hchars, hnonempty⟩ := h.captures hspec hvalue
    rw [hkind] at hchars
    exact ⟨by simpa using hnonempty hkind, by simpa [Kind.allows] using hchars⟩
  text _ _ := text_eq_ok_iff
  exists_text _ := h.exists_text_iff
  get?_none _ := h.get?_eq_none_iff
  get?_last _ _ := h.get?_eq_of_last
  int := by
    intro i spec value hspec hvalue hkind
    obtain ⟨hchars, -⟩ := h.captures hspec hvalue
    rw [hkind] at hchars
    exact int_eq_of_digits hvalue hspec hchars

end PathParams

/-! ### Requests that are routed -/

namespace App

/-- A request that is routed runs the action of its route, with parameters that it can rely on: they
    belong to the placeholders of the template of the route. -/
theorem dispatch_params (ds : List Declaration) (renderer : View.Renderer) (r : Request)
    (found : Resolved Action)
    (hfound : (declared ds).routes.resolve r.path r.method = .ok found) :
    ((declared ds).dispatcher renderer).dispatch r = (Dispatcher.respond renderer
      (found.entry.handler r (Dispatcher.paramsOf found))).map .handled ∧
    (Dispatcher.paramsOf found).Reliable
      (placeholders (parseTemplate found.entry.pattern.template)) := by
  obtain ⟨hmem, hvalues⟩ := Table.mem_of_resolve_eq_ok hfound
  refine ⟨?_, ?_⟩
  · rw [Dispatcher.dispatch, dispatcher, hfound]
    rfl
  · rw [← segments_of_mem_entriesFor hmem]
    exact (PathParams.matched_of_captures hvalues).reliable

/-- A name that is declared twice, the first time between parentheses. -/
def repeatedName : Registered Action where
  method := .get
  template := "/({id:int})/{id:str}"
  handler := fun _ p => .done (.text 200 ((p.get? "id").getD ""))

def repeatedNameApp : App :=
  declared [.route [repeatedName.method] repeatedName.template repeatedName.handler]

theorem dispatch_params_repeated :
    repeatedNameApp.routes.resolve "/(007)/b_2" .get =
      .ok ⟨repeatedName.entry, ["007", "b_2"]⟩ ∧
    (repeatedNameApp.dispatcher fun _ _ => .page "").dispatch (.bare .get "/(007)/b_2") =
      .ok (.handled (Response.text 200 "b_2")) ∧
    (Dispatcher.paramsOf ⟨repeatedName.entry, ["007", "b_2"]⟩).int 0 = .ok 7 := by
  have hfound : repeatedNameApp.routes.resolve "/(007)/b_2" .get =
      .ok ⟨repeatedName.entry, ["007", "b_2"]⟩ :=
    (follows_declared _).resolve_eq_ok_iff.2
      ⟨[], repeatedName, [], by rfl, ⟨rfl, rfl, by decide +kernel⟩, by simp⟩
  obtain ⟨hdispatch, hparams⟩ :=
    dispatch_params _ (fun _ _ => .page "") (.bare .get "/(007)/b_2") _ hfound
  have hplaceholders : placeholders (parseTemplate repeatedName.entry.pattern.template) =
      [⟨"id", .int⟩, ⟨"id", .str⟩] := by
    decide +kernel
  rw [hplaceholders] at hparams
  have hname : (Dispatcher.paramsOf ⟨repeatedName.entry, ["007", "b_2"]⟩).get? "id" =
      some "b_2" := by
    refine hparams.get?_last 1 ⟨"id", .str⟩ rfl ?_
    intro j other hj hother
    obtain ⟨hlt, -⟩ := List.getElem?_eq_some_iff.1 hother
    exact absurd hlt (Nat.not_lt_of_le hj)
  refine ⟨hfound, ?_, ?_⟩
  · rw [repeatedNameApp, hdispatch]
    change Except.ok (Dispatched.handled (Response.text 200
      (Option.getD (PathParams.get? _ "id") ""))) = _
    rw [hname]
    rfl
  · rw [hparams.int 0 ⟨"id", .int⟩ "007" rfl rfl rfl]
    decide +kernel

end App

end RouteServer
