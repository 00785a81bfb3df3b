import RouteServer.Route.Table
import Mathlib.Data.List.Basic
import Mathlib.Data.List.Induction

/-
  **The history of a table** — a route table shows the log of its successful registrations.

  A history is any series of calls, those that fail included.  Its log has one record for each
  method of each call that succeeds.  What one call does is said once, by `run_eq`: it fails and
  adds nothing, or it pushes the entries of its own records one after another.  `Follows` is the
  invariant that every push keeps, and `Records` is all that the queries of a table show of its log.
-/

namespace RouteServer.Route

variable {H : Type}

/-! ### Calls and the log -/

/-- A call that registers a handler. -/
inductive Registration (H : Type) where
  | register (m : Method) (template : String) (handler : H)
  | registerDeclared (m : Method) (template : Option String) (handler : H)
  | registerMany (ms : List Method) (template : String) (handler : H)

/-- A successful registration under one method. -/
structure Registered (H : Type) where
  method : Method
  template : String
  handler : H

def Registered.entry (r : Registered H) : Entry H := .ofPattern (.ofTemplate r.template) r.handler

namespace Registration

def methods : Registration H → List Method
  | .register m _ _ => [m]
  | .registerDeclared m _ _ => [m]
  | .registerMany ms _ _ => ms

def template? : Registration H → Option String
  | .register _ t _ => some t
  | .registerDeclared _ t _ => t
  | .registerMany _ t _ => some t

def handler : Registration H → H
  | .register _ _ h => h
  | .registerDeclared _ _ h => h
  | .registerMany _ _ h => h

/-- The template is missing, empty or blank. -/
def Refused (c : Registration H) : Prop :=
  ∀ t, c.template? = some t → ∀ x ∈ t.toList, Text.isBlank x = true

def run (t : Table H) : Registration H → Except RouteError (Table H)
  | .register m template h => t.register m template h
  | .registerDeclared m template h => t.registerDeclared m template h
  | .registerMany ms template h => t.registerMany ms template h

/-- The table behind a call, which is the old one if the call fails. -/
def after (t : Table H) (c : Registration H) : Table H :=
  match c.run t with
  | .ok t' => t'
  | .error _ => t

/-- The records of a call: one for each of its methods, none if it is refused. -/
def records (c : Registration H) : List (Registered H) :=
  match c.template? with
  | none => []
  | some t =>
    if t.toList.all Text.isBlank then [] else c.methods.map fun m => ⟨m, t, c.handler⟩

end Registration

/-- The table behind a history. -/
def tableOf (calls : List (Registration H)) : Table H := calls.foldl Registration.after .empty

def logOf (calls : List (Registration H)) : List (Registered H) :=
  calls.flatMap Registration.records

def Table.pushAll (t : Table H) (records : List (Registered H)) : Table H :=
  records.foldl (fun t r => t.push r.method r.entry) t

/-! ### One call -/

theorem isBlankTemplate_iff {t : String} :
    isBlankTemplate t = true ↔ ∀ x ∈ t.toList, Text.isBlank x = true := by
  rw [isBlankTemplate, List.isEmpty_iff, Text.trim_eq_nil_iff]

theorem compile_eq_ok {t : String} (h : ¬ ∀ x ∈ t.toList, Text.isBlank x = true) :
    compile t = .ok (.ofTemplate t) := by
  rw [compile, compileDeclared, if_neg (fun hblank => h (isBlankTemplate_iff.1 hblank))]

theorem compile_eq_error {t : String} (h : ∀ x ∈ t.toList, Text.isBlank x = true) :
    compile t = .error (.blank t) := by
  rw [compile, compileDeclared, if_pos (isBlankTemplate_iff.2 h)]

theorem eq_ofTemplate_of_compile {t : String} {p : Pattern} (h : compile t = .ok p) :
    p = .ofTemplate t := by
  rw [compile, compileDeclared] at h
  split at h
  · cases h
  · exact (Except.ok.inj h).symm

/-- The text of a compiled route is compiled to that route. -/
theorem compile_template {t : String} {p : Pattern} (h : compile t = .ok p) :
    compile p.template = .ok p := by
  obtain rfl := eq_ofTemplate_of_compile h
  exact compile_normalize t

namespace Registration

def error (c : Registration H) : RouteError :=
  match c.template? with
  | none => .missing
  | some t => .blank t

theorem run_of_refused {c : Registration H} (h : c.Refused) (t : Table H) :
    c.run t = .error c.error := by
  cases c with
  | register m template handler =>
    rw [run, Table.register, Table.registerDeclared, ← compile, compile_eq_error (h _ rfl)]
    rfl
  | registerDeclared m template handler =>
    cases template with
    | none => rfl
    | some s =>
      rw [run, Table.registerDeclared, ← compile, compile_eq_error (h _ rfl)]
      rfl
  | registerMany ms template handler =>
    rw [run, Table.registerMany, compile_eq_error (h _ rfl)]
    rfl

theorem records_of_refused {c : Registration H} (h : c.Refused) : c.records = [] := by
  rw [records]
  split
  · rfl
  · rename_i t ht
    exact if_pos (List.all_eq_true.2 (h t ht))

/-- A call that is not refused has a template, and makes a record for each of its methods. -/
theorem exists_records_of_not_refused {c : Registration H} (h : ¬ c.Refused) :
    ∃ t, c.template? = some t ∧ compile t = .ok (.ofTemplate t) ∧
      c.records = c.methods.map fun m => ⟨m, t, c.handler⟩ := by
  simp only [Refused, not_forall] at h
  obtain ⟨t, ht, x, hx, hblank⟩ := h
  have hvisible : ¬ ∀ x ∈ t.toList, Text.isBlank x = true := fun hall => hblank (hall x hx)
  exact ⟨t, ht, compile_eq_ok hvisible, by
    rw [records, ht]
    exact if_neg fun hall => hvisible (List.all_eq_true.1 hall)⟩

theorem run_of_not_refused {c : Registration H} (h : ¬ c.Refused) (t : Table H) :
    c.run t = .ok (t.pushAll c.records) := by
  obtain ⟨s, hs, hcompile, hrecords⟩ := exists_records_of_not_refused h
  rw [hrecords]
  cases c with
  | register m template handler =>
    obtain rfl := Option.some.inj hs
    rw [run, Table.register, Table.registerDeclared, ← compile, hcompile]
    rfl
  | registerDeclared m template handler =>
    obtain rfl : template = some s := hs
    rw [run, Table.registerDeclared, ← compile, hcompile]
    rfl
  | registerMany ms template handler =>
    obtain rfl := Option.some.inj hs
    rw [run, Table.registerMany, hcompile, Table.pushAll, List.foldl_map]
    rfl

/-- What a call does: it adds the entries of its records, and nothing if it is refused. -/
theorem after_eq (t : Table H) (c : Registration H) : c.after t = t.pushAll c.records := by
  by_cases h : c.Refused
  · rw [after, run_of_refused h, records_of_refused h]
    rfl
  · rw [after, run_of_not_refused h]

end Registration

/-- Pushing records adds to the entries of a method those of its own records, in their order. -/
theorem Table.entriesFor_pushAll (t : Table H) (records : List (Registered H)) (m : Method) :
    (t.pushAll records).entriesFor m =
      t.entriesFor m ++ (records.filter (·.method = m)).map Registered.entry := by
  induction records generalizing t with
  | nil => rw [List.filter_nil, List.map_nil, List.append_nil, pushAll, List.foldl_nil]
  | cons r records ih =>
    rw [pushAll, List.foldl_cons, ← pushAll, ih, entriesFor_push]
    by_cases hm : m = r.method
    · simp [hm]
    · simp [hm, Ne.symm hm]

/-! ### The invariant -/

/-- The map and the list of methods of a table are both those of a log. -/
structure Table.Follows (t : Table H) (log : List (Registered H)) : Prop where
  entriesFor_eq : ∀ m, t.entriesFor m = (log.filter (·.method = m)).map Registered.entry
  mem_keys_iff : ∀ m, m ∈ t.routes.map (·.1) ↔ m ∈ log.map (·.method)
  methods_eq : t.methods = (log.map (·.method)).eraseDups
  size_eq : t.size = log.length

/-- The entries of every method are those of the records under it, in the order of the records. -/
def Table.Orders (t : Table H) (records : List (Registered H)) : Prop :=
  ∀ m, t.entriesFor m = (records.filter (·.method = m)).map Registered.entry

theorem Table.Follows.orders {t : Table H} {log : List (Registered H)} (h : t.Follows log) :
    t.Orders log := h.entriesFor_eq

theorem Table.Orders.entriesFor_eq_nil_iff {t : Table H} {records : List (Registered H)}
    (h : t.Orders records) {m : Method} : t.entriesFor m = [] ↔ ∀ r ∈ records, r.method ≠ m := by
  rw [h m, List.map_eq_nil_iff, List.filter_eq_nil_iff]
  simp only [decide_eq_true_eq]

theorem eraseDups_concat {α : Type} [DecidableEq α] (l : List α) (a : α) :
    (l ++ [a]).eraseDups = if a ∈ l then l.eraseDups else l.eraseDups ++ [a] := by
  rw [List.eraseDups_append]
  by_cases h : a ∈ l
  · simp [List.removeAll, h]
  · simp [List.removeAll, h, List.eraseDups_cons]

theorem nodup_eraseDups {α : Type} [DecidableEq α] (l : List α) : l.eraseDups.Nodup := by
  induction l using List.reverseRecOn with
  | nil => exact .nil
  | append_singleton l a ih =>
    rw [eraseDups_concat]
    split
    · exact ih
    · rename_i hnew
      refine List.nodup_append.2 ⟨ih, List.pairwise_singleton _ _, fun b hb c hc heq => hnew ?_⟩
      rwa [← List.mem_singleton.1 hc, ← heq, ← List.mem_eraseDups]

namespace Table.Follows

theorem empty : (Table.empty : Table H).Follows [] :=
  ⟨fun _ => rfl, fun _ => Iff.rfl, rfl, rfl⟩

/-- One step: an entry is added to the table and its record to the log. -/
theorem push {t : Table H} {log : List (Registered H)} (h : t.Follows log) (r : Registered H) :
    (t.push r.method r.entry).Follows (log ++ [r]) := by
  constructor
  · intro m
    rw [entriesFor_push, h.entriesFor_eq, List.filter_append, List.map_append]
    by_cases hm : m = r.method
    · simp [hm]
    · simp [hm, Ne.symm hm]
  · intro m
    rw [mem_keys_push, h.mem_keys_iff, List.map_append, List.mem_append, List.map_singleton,
      List.mem_singleton]
  · -- the key is new in the map just when the method is new in the log
    rw [List.map_append, List.map_singleton, eraseDups_concat, ← h.methods_eq]
    simp only [Table.push, h.mem_keys_iff]
  · rw [size_push, h.size_eq, List.length_append, List.length_singleton]

theorem pushAll {t : Table H} {log : List (Registered H)} (h : t.Follows log)
    (records : List (Registered H)) : (t.pushAll records).Follows (log ++ records) := by
  induction records generalizing t log with
  | nil => rwa [List.append_nil]
  | cons r records ih =>
    have hstep := ih (h.push r)
    rwa [List.append_assoc] at hstep

/-- The run: a table follows the log of its history. -/
theorem history (calls : List (Registration H)) : (tableOf calls).Follows (logOf calls) := by
  have hrun : ∀ (calls : List (Registration H)) (t : Table H) (log : List (Registered H)),
      t.Follows log → (calls.foldl Registration.after t).Follows (log ++ logOf calls) := by
    intro calls
    induction calls with
    | nil =>
      intro t log h
      rwa [logOf, List.flatMap_nil, List.append_nil]
    | cons c calls ih =>
      intro t log h
      rw [List.foldl_cons, Registration.after_eq, logOf, List.flatMap_cons, ← List.append_assoc]
      exact ih _ _ (h.pushAll c.records)
  exact hrun calls .empty [] .empty

section Queries

variable {t : Table H} {log : List (Registered H)}

theorem nodup_methods (h : t.Follows log) : t.methods.Nodup := by
  rw [h.methods_eq]
  exact nodup_eraseDups _

theorem mem_methods_iff (h : t.Follows log) {m : Method} :
    m ∈ t.methods ↔ ∃ r ∈ log, r.method = m := by
  rw [h.methods_eq, List.mem_eraseDups, List.mem_map]

theorem entriesFor_eq_nil_iff (h : t.Follows log) {m : Method} :
    t.entriesFor m = [] ↔ ∀ r ∈ log, r.method ≠ m :=
  h.orders.entriesFor_eq_nil_iff

theorem isEmpty_iff (h : t.Follows log) : t.isEmpty = true ↔ log = [] := by
  rw [Table.isEmpty_iff, List.eq_nil_iff_forall_not_mem]
  simp only [h.mem_keys_iff]
  rw [← List.eq_nil_iff_forall_not_mem, List.map_eq_nil_iff]

end Queries

end Table.Follows

/-! ### All entries together -/

/-- Taking a log method by method takes every record once. -/
theorem flatMap_filter_perm {ms : List Method} {log : List (Registered H)} (hnodup : ms.Nodup)
    (hmem : ∀ r ∈ log, r.method ∈ ms) :
    (ms.flatMap fun m => log.filter (·.method = m)).Perm log := by
  induction ms generalizing log with
  | nil =>
    obtain rfl : log = [] :=
      List.eq_nil_iff_forall_not_mem.2 fun r hr => List.not_mem_nil (hmem r hr)
    exact .refl _
  | cons m ms ih =>
    rw [List.nodup_cons] at hnodup
    -- the records of the other methods
    have hothers : (ms.flatMap fun n => log.filter (·.method = n)) =
        ms.flatMap fun n => (log.filter fun r => !decide (r.method = m)).filter (·.method = n) := by
      refine List.flatMap_congr fun n hn => ?_
      rw [List.filter_filter]
      refine List.filter_congr fun r _ => ?_
      have hne : n ≠ m := fun heq => hnodup.1 (heq ▸ hn)
      by_cases hr : r.method = n <;> simp [hr, hne]
    rw [List.flatMap_cons, hothers]
    refine ((ih hnodup.2 ?_).append_left _).trans (List.filter_append_perm _ log)
    intro r hr
    rw [List.mem_filter, Bool.not_eq_true', decide_eq_false_iff_not] at hr
    exact (List.mem_cons.1 (hmem r hr.1)).resolve_left hr.2

theorem Table.Follows.toList_eq {t : Table H} {log : List (Registered H)} (h : t.Follows log) :
    t.toList =
      (t.methods.flatMap fun m => log.filter (·.method = m)).map fun r => (r.method, r.entry) := by
  rw [Table.toList, List.map_flatMap]
  refine List.flatMap_congr fun m _ => ?_
  rw [h.entriesFor_eq, List.map_map]
  refine List.map_congr_left fun r hr => ?_
  rw [List.mem_filter, decide_eq_true_eq] at hr
  rw [Function.comp_apply, hr.2]

theorem Table.Follows.toList_perm {t : Table H} {log : List (Registered H)} (h : t.Follows log) :
    t.toList.Perm (log.map fun r => (r.method, r.entry)) := by
  rw [h.toList_eq]
  exact (flatMap_filter_perm h.nodup_methods fun r hr => h.mem_methods_iff.2 ⟨r, hr, rfl⟩).map _

/-! ### What the queries show -/

/-- The queries of a table, read off the log of its registrations. -/
structure Table.Records (t : Table H) (log : List (Registered H)) : Prop where
  entriesFor : ∀ m, t.entriesFor m = (log.filter (·.method = m)).map Registered.entry
  methods : t.methods = (log.map (·.method)).eraseDups
  mem_methods : ∀ m, m ∈ t.methods ↔ t.entriesFor m ≠ []
  size : t.size = log.length
  isEmpty : t.isEmpty = true ↔ log = []
  toList : t.toList = t.methods.flatMap fun m => (t.entriesFor m).map (m, ·)
  /-- every entry of the log is listed once -/
  perm : t.toList.Perm (log.map fun r => (r.method, r.entry))
  paramCount : ∀ e ∈ t.toList, e.2.paramCount = (placeholders e.2.pattern.segments).length

theorem Table.Follows.records {t : Table H} {log : List (Registered H)} (h : t.Follows log) :
    t.Records log where
  entriesFor := h.entriesFor_eq
  methods := h.methods_eq
  mem_methods m := by
    rw [h.mem_methods_iff, ne_eq, h.entriesFor_eq_nil_iff]
    simp only [ne_eq, not_forall, not_not, exists_prop]
  size := h.size_eq
  isEmpty := h.isEmpty_iff
  toList := rfl
  perm := h.toList_perm
  paramCount := by
    intro e he
    obtain ⟨r, -, rfl⟩ := List.mem_map.1 (h.toList_perm.mem_iff.1 he)
    rfl

/-- A table shows the log of its history, whatever calls there were.  Every record of the log holds
    a template that compiles to the pattern of its entry; a call that is refused leaves table and
    log as they are, and any other adds a record for each of its methods in order. -/
theorem tableOf_records (calls : List (Registration H)) :
    (tableOf calls).Records (logOf calls) ∧
    (∀ r ∈ logOf calls, compile r.template = .ok r.entry.pattern) ∧
    (∀ c : Registration H, c.Refused →
      (∃ e, c.run (tableOf calls) = .error e) ∧
      tableOf (calls ++ [c]) = tableOf calls ∧ logOf (calls ++ [c]) = logOf calls) ∧
    (∀ c : Registration H, ¬ c.Refused →
      c.run (tableOf calls) = .ok (tableOf (calls ++ [c])) ∧
      ∃ t, c.template? = some t ∧
        logOf (calls ++ [c]) = logOf calls ++ c.methods.map fun m => ⟨m, t, c.handler⟩) := by
  have htable : ∀ c : Registration H, tableOf (calls ++ [c]) = c.after (tableOf calls) :=
    fun c => List.foldl_concat _ _ _ _
  have hlog : ∀ c : Registration H, logOf (calls ++ [c]) = logOf calls ++ c.records := by
    intro c
    simp [logOf]
  refine ⟨(Table.Follows.history calls).records, ?_, fun c hc => ⟨?_, ?_, ?_⟩, fun c hc => ⟨?_, ?_⟩⟩
  · intro r hr
    obtain ⟨c, -, hmem⟩ := List.mem_flatMap.1 hr
    by_cases hc : c.Refused
    · rw [Registration.records_of_refused hc] at hmem
      cases hmem
    · obtain ⟨t, -, hcompile, hrecords⟩ := Registration.exists_records_of_not_refused hc
      rw [hrecords] at hmem
      obtain ⟨m, -, rfl⟩ := List.mem_map.1 hmem
      exact hcompile
  · exact ⟨_, Registration.run_of_refused hc _⟩
  · rw [htable, Registration.after_eq, Registration.records_of_refused hc]
    rfl
  · rw [hlog, Registration.records_of_refused hc, List.append_nil]
  · rw [htable, Registration.after_eq]
    exact Registration.run_of_not_refused hc _
  · obtain ⟨t, ht, -, hrecords⟩ := Registration.exists_records_of_not_refused hc
    exact ⟨t, ht, by rw [hlog, hrecords]⟩

/-- A method that is listed twice gets two entries, and a blank template gives none to any. -/
theorem tableOf_records_blank :
    (Registration.registerMany [.get, .put] " " 2).Refused ∧
    (tableOf [.registerMany [.post, .get, .post] "item/{id:int}" 1,
      .registerMany [.get, .put] " " 2]).methods = [.post, .get] ∧
    (tableOf [.registerMany [.post, .get, .post] "item/{id:int}" 1,
      .registerMany [.get, .put] " " 2]).size = 3 := by
  have hrefused : (Registration.registerMany [.get, .put] " " 2).Refused := by
    intro t ht x hx
    obtain rfl := Option.some.inj ht
    obtain rfl : x = ' ' := by simpa using hx
    decide
  obtain ⟨hrecords, -, hunchanged, -⟩ :=
    tableOf_records [.registerMany [.post, .get, .post] "item/{id:int}" 1]
  obtain ⟨-, htable, -⟩ := hunchanged _ hrefused
  rw [List.singleton_append] at htable
  rw [htable, hrecords.methods, hrecords.size]
  exact ⟨hrefused, by decide +kernel, by decide +kernel⟩

end RouteServer.Route
