import RouteServer.Proofs.Route.Resolution

/-
  **The listing of the routes** — what is printed is the order in which routes are tried.

  The listing goes through the methods in the order of their first registration, the resolver goes
  straight to one method.  Both look at the same records: listing a log method by method moves
  records of different methods past each other, but it never swaps two records of one method
  (`filter_listed`).  So the listed records order the table as well as the log does, and what is
  known of resolution by the log is known of it by the listing.
-/

namespace RouteServer.Route

variable {H : Type}

/-- The records of a log method by method, the methods in order of their first record. -/
def listed (log : List (Registered H)) : List (Registered H) :=
  (log.map (·.method)).eraseDups.flatMap fun m => log.filter (·.method = m)

/-- The line of a record: method and template, both filled up with spaces, the regular expression
    and a line end. -/
def Registered.row (r : Registered H) : String :=
  padTo 7 r.method.token ++ " " ++ padTo 45 r.entry.pattern.template ++ " " ++
    r.entry.pattern.expression ++ "\n"

/-- Of records that are taken method by method, those of one method are found in one place. -/
theorem filter_flatMap_filter {ms : List Method} (hnodup : ms.Nodup) (log : List (Registered H))
    (m : Method) :
    (ms.flatMap fun k => log.filter (·.method = k)).filter (·.method = m) =
      if m ∈ ms then log.filter (·.method = m) else [] := by
  induction ms with
  | nil => rfl
  | cons k ms ih =>
    obtain ⟨hk, hrest⟩ := List.nodup_cons.1 hnodup
    rw [List.flatMap_cons, List.filter_append, ih hrest, List.filter_filter]
    by_cases hm : m = k
    · subst hm
      simp [hk]
    · have hnone : (log.filter fun r => decide (r.method = m) && decide (r.method = k)) = [] := by
        rw [List.filter_eq_nil_iff]
        intro r _ hboth
        rw [Bool.and_eq_true, decide_eq_true_eq, decide_eq_true_eq] at hboth
        exact hm (hboth.1.symm.trans hboth.2)
      simp [hnone, hm]

theorem filter_listed (log : List (Registered H)) (m : Method) :
    (listed log).filter (·.method = m) = log.filter (·.method = m) := by
  rw [listed, filter_flatMap_filter (nodup_eraseDups _)]
  split
  · rfl
  · rename_i hm
    rw [List.mem_eraseDups] at hm
    symm
    rw [List.filter_eq_nil_iff]
    intro r hr hmethod
    exact hm (List.mem_map.2 ⟨r, hr, of_decide_eq_true hmethod⟩)

theorem listed_perm (log : List (Registered H)) : (listed log).Perm log := by
  apply flatMap_filter_perm (nodup_eraseDups _)
  intro r hr
  rw [List.mem_eraseDups]
  exact List.mem_map_of_mem hr

namespace Table.Follows

variable {t : Table H} {log : List (Registered H)}

theorem orders_listed (h : t.Follows log) : t.Orders (listed log) := by
  intro m
  rw [h.entriesFor_eq, filter_listed]

theorem listing_eq (h : t.Follows log) :
    t.listing = String.join ((listed log).map Registered.row) := by
  rw [Table.listing, h.toList_eq, h.methods_eq, List.map_map]
  rfl

end Table.Follows

/-- The listing behind any history of calls has one row for each record of its log, grouped by
    method in order of first registration, with the records of a method in order of registration.
    The route that answers a request is the first one listed under the method whose pattern matches;
    if none does, the path is not found, and if none is listed under the method, the method is not
    allowed. -/
theorem listing_tableOf (calls : List (Registration H)) :
    (tableOf calls).listing = String.join ((listed (logOf calls)).map Registered.row) ∧
    (listed (logOf calls)).Perm (logOf calls) ∧
    (∀ m, (listed (logOf calls)).filter (·.method = m) = (logOf calls).filter (·.method = m)) ∧
    ∀ path m,
      (∀ found, (tableOf calls).resolve path m = .ok found ↔
        ∃ earlier r later, listed (logOf calls) = earlier ++ r :: later ∧
          (r.method = m ∧ found.entry = r.entry ∧
            r.entry.pattern.captures path = some found.values) ∧
          ∀ q ∈ earlier, q.method = m → q.entry.pattern.captures path = none) ∧
      ((∃ allowed, (tableOf calls).resolve path m = .error (.methodNotAllowed allowed)) ↔
        ∀ r ∈ listed (logOf calls), r.method ≠ m) ∧
      ((tableOf calls).resolve path m = .error .notFound ↔
        (∃ r ∈ listed (logOf calls), r.method = m) ∧
          ∀ r ∈ listed (logOf calls), r.method = m → r.entry.pattern.captures path = none) := by
  have hlog := Table.Follows.history calls
  have hlisted := hlog.orders_listed
  refine ⟨hlog.listing_eq, listed_perm _, filter_listed _, fun path m => ⟨?_, ?_, ?_⟩⟩
  · exact fun found => hlisted.resolve_eq_ok_iff
  · rw [← hlisted.entriesFor_eq_nil_iff]
    simp only [Table.resolve_eq_methodNotAllowed_iff, exists_and_left, exists_eq, and_true]
  · exact hlisted.resolve_eq_notFound_iff

/-- Two methods by turns, and a call that is refused. -/
def interleaved : List (Registration Nat) :=
  [.register .get "/item/{id:int}" 1, .registerMany [.post, .get] "/item/{key:str}" 2,
    .register .put " " 3]

theorem listing_tableOf_interleaved :
    (tableOf interleaved).listing =
      "GET     /item/{id:int}                                ^/item/([0-9]*)/?$\n" ++
      "GET     /item/{key:str}                               ^/item/([A-Za-z0-9_]+)/?$\n" ++
      "POST    /item/{key:str}                               ^/item/([A-Za-z0-9_]+)/?$\n" ∧
    (tableOf interleaved).resolve "/item/b" .get =
      .ok ⟨.ofPattern (.ofTemplate "/item/{key:str}") 2, ["b"]⟩ ∧
    ∃ allowed,
      (tableOf interleaved).resolve "/item/b" .put = .error (.methodNotAllowed allowed) := by
  obtain ⟨hlisting, -, -, hresolve⟩ := listing_tableOf interleaved
  refine ⟨?_, ?_, ?_⟩
  · rw [hlisting]
    decide +kernel
  · apply ((hresolve "/item/b" .get).1 _).2
    exact ⟨[⟨.get, "/item/{id:int}", 1⟩], ⟨.get, "/item/{key:str}", 2⟩,
      [⟨.post, "/item/{key:str}", 2⟩], by rfl, ⟨rfl, rfl, by decide +kernel⟩, by decide +kernel⟩
  · exact (hresolve "/item/b" .put).2.1.2 (by decide)

end RouteServer.Route
