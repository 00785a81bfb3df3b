import RouteServer.Route.Resolver
import RouteServer.Proofs.Route.History

/-
  **Resolution over a history** — the earliest registration that matches wins.

  A table answers a request from the entries of one method, but a history mixes methods, several at
  once, and calls that fail.  Here the answer is read off the log of the history: the route found is
  the first record under the method whose template matches, whatever stands between such records.
  So a request that was answered stays answered in the same way when routes are added.
-/

namespace RouteServer.Route

variable {H : Type}

/-! ### One table -/

theorem firstMatch_eq_findSome? (path : String) (entries : List (Entry H)) :
    firstMatch path entries =
      entries.findSome? fun e => (e.pattern.captures path).map fun values => ⟨e, values⟩ := by
  induction entries with
  | nil => rfl
  | cons e entries ih =>
    rw [firstMatch, List.findSome?_cons]
    cases e.pattern.captures path with
    | none => exact ih
    | some values => rfl

namespace Table

theorem resolve_eq (t : Table H) (path : String) (m : Method) :
    t.resolve path m =
      match firstMatch path (t.entriesFor m) with
      | some found => .ok found
      | none =>
        if t.entriesFor m = [] then .error (.methodNotAllowed t.methods) else .error .notFound := by
  rw [resolve]
  cases t.entriesFor m with
  | nil => rfl
  | cons e r => cases hfirst : firstMatch path (e :: r) <;> simp [hfirst]

theorem resolve_eq_ok_iff {t : Table H} {path : String} {m : Method} {found : Resolved H} :
    t.resolve path m = .ok found ↔ firstMatch path (t.entriesFor m) = some found := by
  rw [resolve_eq]
  cases firstMatch path (t.entriesFor m) with
  | none => by_cases hnil : t.entriesFor m = [] <;> simp [hnil]
  | some other => simp

theorem resolve_eq_notFound_iff {t : Table H} {path : String} {m : Method} :
    t.resolve path m = .error .notFound ↔
      t.entriesFor m ≠ [] ∧ firstMatch path (t.entriesFor m) = none := by
  rw [resolve_eq]
  cases firstMatch path (t.entriesFor m) with
  | none => by_cases hnil : t.entriesFor m = [] <;> simp [hnil]
  | some other => simp

theorem resolve_eq_methodNotAllowed_iff {t : Table H} {path : String} {m : Method}
    {allowed : List Method} :
    t.resolve path m = .error (.methodNotAllowed allowed) ↔
      t.entriesFor m = [] ∧ allowed = t.methods := by
  rw [resolve]
  cases t.entriesFor m with
  | nil => simp [eq_comm]
  | cons e r => cases hfirst : firstMatch path (e :: r) <;> simp [hfirst]

theorem mem_of_resolve_eq_ok {t : Table H} {path : String} {m : Method} {found : Resolved H}
    (h : t.resolve path m = .ok found) :
    found.entry ∈ t.entriesFor m ∧ found.entry.pattern.captures path = some found.values := by
  rw [resolve_eq_ok_iff, firstMatch_eq_findSome?] at h
  obtain ⟨e, he, hanswer⟩ := List.exists_of_findSome?_eq_some h
  obtain ⟨values, hvalues, rfl⟩ := Option.map_eq_some_iff.1 hanswer
  exact ⟨he, hvalues⟩

end Table

/-! ### Read off the log -/

/-- What a record answers to a request, if it is under the method and its template matches. -/
def Registered.answer (path : String) (m : Method) (r : Registered H) : Option (Resolved H) :=
  if r.method = m then (r.entry.pattern.captures path).map fun values => ⟨r.entry, values⟩
  else none

theorem Registered.answer_eq_some_iff {path : String} {m : Method} {r : Registered H}
    {found : Resolved H} :
    r.answer path m = some found ↔
      r.method = m ∧ found.entry = r.entry ∧
        r.entry.pattern.captures path = some found.values := by
  obtain ⟨entry, values⟩ := found
  by_cases hm : r.method = m
  · simp only [answer, hm, if_true, Option.map_eq_some_iff, Resolved.mk.injEq, true_and]
    constructor
    · rintro ⟨vs, hvs, rfl, rfl⟩
      exact ⟨rfl, hvs⟩
    · rintro ⟨rfl, hvs⟩
      exact ⟨values, hvs, rfl, rfl⟩
  · simp [answer, hm]

theorem Registered.answer_eq_none_iff {path : String} {m : Method} {r : Registered H} :
    r.answer path m = none ↔ (r.method = m → r.entry.pattern.captures path = none) := by
  by_cases hm : r.method = m <;> simp [answer, hm]

theorem firstMatch_log (path : String) (m : Method) (log : List (Registered H)) :
    firstMatch path ((log.filter (·.method = m)).map Registered.entry) =
      log.findSome? (Registered.answer path m) := by
  rw [firstMatch_eq_findSome?, List.findSome?_map]
  induction log with
  | nil => rfl
  | cons r log ih =>
    rw [List.findSome?_cons, ← ih]
    by_cases hm : r.method = m
    · rw [List.filter_cons_of_pos (by simpa using hm), List.findSome?_cons]
      simp only [Registered.answer, hm, if_true, Function.comp_apply]
    · rw [List.filter_cons_of_neg (by simpa using hm)]
      simp only [Registered.answer, hm, if_false]

namespace Table.Orders

variable {t : Table H} {records : List (Registered H)}

theorem firstMatch_eq (h : t.Orders records) (path : String) (m : Method) :
    firstMatch path (t.entriesFor m) = records.findSome? (Registered.answer path m) := by
  rw [h m, firstMatch_log]

/-- The route found is the first record under the method whose template matches. -/
theorem resolve_eq_ok_iff (h : t.Orders records) {path : String} {m : Method} {found : Resolved H} :
    t.resolve path m = .ok found ↔
      ∃ earlier r later, records = earlier ++ r :: later ∧
        (r.method = m ∧ found.entry = r.entry ∧
          r.entry.pattern.captures path = some found.values) ∧
        ∀ q ∈ earlier, q.method = m → q.entry.pattern.captures path = none := by
  rw [Table.resolve_eq_ok_iff, h.firstMatch_eq, List.findSome?_eq_some_iff]
  simp only [Registered.answer_eq_some_iff, Registered.answer_eq_none_iff]

/-- No route is found when the method has records and none of them matches. -/
theorem resolve_eq_notFound_iff (h : t.Orders records) {path : String} {m : Method} :
    t.resolve path m = .error .notFound ↔
      (∃ r ∈ records, r.method = m) ∧
        ∀ r ∈ records, r.method = m → r.entry.pattern.captures path = none := by
  rw [Table.resolve_eq_notFound_iff, h.firstMatch_eq, List.findSome?_eq_none_iff, ne_eq,
    h.entriesFor_eq_nil_iff]
  simp only [Registered.answer_eq_none_iff, ne_eq, not_forall, not_not, exists_prop]

end Table.Orders

namespace Table.Follows

variable {t : Table H} {log : List (Registered H)}

theorem firstMatch_eq (h : t.Follows log) (path : String) (m : Method) :
    firstMatch path (t.entriesFor m) = log.findSome? (Registered.answer path m) :=
  h.orders.firstMatch_eq path m

theorem resolve_eq_ok_iff (h : t.Follows log) {path : String} {m : Method} {found : Resolved H} :
    t.resolve path m = .ok found ↔
      ∃ earlier r later, log = earlier ++ r :: later ∧
        (r.method = m ∧ found.entry = r.entry ∧
          r.entry.pattern.captures path = some found.values) ∧
        ∀ q ∈ earlier, q.method = m → q.entry.pattern.captures path = none :=
  h.orders.resolve_eq_ok_iff

theorem resolve_eq_notFound_iff (h : t.Follows log) {path : String} {m : Method} :
    t.resolve path m = .error .notFound ↔
      (∃ r ∈ log, r.method = m) ∧
        ∀ r ∈ log, r.method = m → r.entry.pattern.captures path = none :=
  h.orders.resolve_eq_notFound_iff

theorem resolve_eq_methodNotAllowed_iff (h : t.Follows log) {path : String} {m : Method}
    {allowed : List Method} :
    t.resolve path m = .error (.methodNotAllowed allowed) ↔
      (∀ r ∈ log, r.method ≠ m) ∧ allowed = (log.map (·.method)).eraseDups := by
  rw [Table.resolve_eq_methodNotAllowed_iff, h.entriesFor_eq_nil_iff, h.methods_eq]

end Table.Follows

/-! ### Histories -/

theorem logOf_append (calls more : List (Registration H)) :
    logOf (calls ++ more) = logOf calls ++ logOf more :=
  List.flatMap_append

/-- Resolution behind any history of calls: the earliest successful registration under the method
    that matches is found; without one, the path is not found if the method has registrations, and
    else the method is not allowed and the answer lists the methods that have some, each once, in
    order of first registration.  So a route that was found is found behind every extension of the
    history, and apart from methods that are not allowed only the registrations under the method
    count. -/
theorem resolve_tableOf (calls : List (Registration H)) (path : String) (m : Method) :
    (∀ found, (tableOf calls).resolve path m = .ok found ↔
      ∃ earlier r later, logOf calls = earlier ++ r :: later ∧
        (r.method = m ∧ found.entry = r.entry ∧
          r.entry.pattern.captures path = some found.values) ∧
        ∀ q ∈ earlier, q.method = m → q.entry.pattern.captures path = none) ∧
    ((tableOf calls).resolve path m = .error .notFound ↔
      (∃ r ∈ logOf calls, r.method = m) ∧
        ∀ r ∈ logOf calls, r.method = m → r.entry.pattern.captures path = none) ∧
    (∀ allowed, (tableOf calls).resolve path m = .error (.methodNotAllowed allowed) ↔
      (∀ r ∈ logOf calls, r.method ≠ m) ∧
        allowed = ((logOf calls).map (·.method)).eraseDups) ∧
    (∀ allowed, (tableOf calls).resolve path m = .error (.methodNotAllowed allowed) →
      allowed.Nodup ∧ m ∉ allowed) ∧
    (∀ more found, (tableOf calls).resolve path m = .ok found →
      (tableOf (calls ++ more)).resolve path m = .ok found) ∧
    (∀ others : List (Registration H),
      (logOf others).filter (·.method = m) = (logOf calls).filter (·.method = m) →
      (∀ found, (tableOf others).resolve path m = .ok found ↔
        (tableOf calls).resolve path m = .ok found) ∧
      ((tableOf others).resolve path m = .error .notFound ↔
        (tableOf calls).resolve path m = .error .notFound)) := by
  have h := Table.Follows.history calls
  refine ⟨fun found => h.resolve_eq_ok_iff, h.resolve_eq_notFound_iff,
    fun allowed => h.resolve_eq_methodNotAllowed_iff, ?_, ?_, ?_⟩
  · intro allowed hallowed
    obtain ⟨hnone, rfl⟩ := h.resolve_eq_methodNotAllowed_iff.1 hallowed
    rw [← h.methods_eq, h.mem_methods_iff]
    exact ⟨h.nodup_methods, fun ⟨r, hr, hm⟩ => hnone r hr hm⟩
  · intro more found hfound
    obtain ⟨earlier, r, later, hlog, hr, hearlier⟩ := h.resolve_eq_ok_iff.1 hfound
    refine (Table.Follows.history (calls ++ more)).resolve_eq_ok_iff.2
      ⟨earlier, r, later ++ logOf more, ?_, hr, hearlier⟩
    rw [logOf_append, hlog, List.append_assoc, List.cons_append]
  · intro others hothers
    have hentries : (tableOf others).entriesFor m = (tableOf calls).entriesFor m := by
      rw [h.entriesFor_eq, (Table.Follows.history others).entriesFor_eq, hothers]
    constructor
    · intro found
      rw [Table.resolve_eq_ok_iff, Table.resolve_eq_ok_iff, hentries]
    · rw [Table.resolve_eq_notFound_iff, Table.resolve_eq_notFound_iff, hentries]

/-- A route that is added later does not take a request away, even if its template is closer. -/
theorem resolve_tableOf_extended :
    (tableOf [.registerMany [.post, .get] "/item/{id:int}" 1]).resolve "/item/7" .get =
      .ok ⟨.ofPattern (.ofTemplate "/item/{id:int}") 1, ["7"]⟩ ∧
    (tableOf [.registerMany [.post, .get] "/item/{id:int}" 1,
      .register .get "/item/7" 2]).resolve "/item/7" .get =
      .ok ⟨.ofPattern (.ofTemplate "/item/{id:int}") 1, ["7"]⟩ := by
  obtain ⟨hfound, -, -, -, hextended, -⟩ :=
    resolve_tableOf [.registerMany [.post, .get] "/item/{id:int}" 1] "/item/7" .get
  have hresolve := (hfound ⟨.ofPattern (.ofTemplate "/item/{id:int}") 1, ["7"]⟩).2
    ⟨[⟨.post, "/item/{id:int}", 1⟩], ⟨.get, "/item/{id:int}", 1⟩, [], by rfl,
      ⟨rfl, rfl, by decide +kernel⟩, by decide⟩
  exact ⟨hresolve, hextended [.register .get "/item/7" 2] _ hresolve⟩

end RouteServer.Route
