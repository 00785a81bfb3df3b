import RouteServer.Proofs.App.Declarations

/-
  **Normal templates** — a slash in front, which is there or is put there, and nothing else.

  A normal template is read as it is, so compiling the text of a compiled route gives that route
  again (`compile_template`), and the slash in front may be left out (`compile_slash_append`).  The
  not-found action relies on the first: its template is compiled, and then the text of the result is
  registered.
-/

namespace RouteServer

open Route

theorem Route.compile_slash_append {t : String} (hvisible : isBlankTemplate t = false)
    (hslash : t.toList.head? ≠ some '/') :
    compile t = .ok (.ofTemplate t) ∧ compile ("/" ++ t) = .ok (.ofTemplate t) := by
  constructor
  · exact compile_of_visible hvisible
  · rw [← normalize_of_not_slash hslash]
    exact compile_normalize t

namespace App

/-- **A template is normalized once.**  The text of a compiled route is its template with a slash in
    front, and compiling that text gives the very same route: text and segments, and with them
    placeholders and expression.  The slash may be left out or not.  So a not-found action is
    registered as its template alone would be, under the route that is looked up for a miss, and
    only the first compilation can fail. -/
theorem compile_normalized (t : String) :
    (∀ p, compile t = .ok p →
      (p.template = if t.toList.head? = some '/' then t else "/" ++ t) ∧
      compile p.template = .ok p) ∧
    (isBlankTemplate t = false → t.toList.head? ≠ some '/' →
      ∃ p, compile t = .ok p ∧ compile ("/" ++ t) = .ok p) ∧
    (∀ (a : App) (action : Action) p, compile t = .ok p →
      ∃ routes, a.routes.register .get t action = .ok routes ∧
        a.routes.register .get p.template action = .ok routes ∧
        routes.entriesFor .get = a.routes.entriesFor .get ++ [.ofPattern p action] ∧
        a.pageNotFound t action = (⟨routes, p.template⟩, none)) ∧
    (∀ (a : App) (action : Action) e, compile t = .error e →
      a.pageNotFound t action = (a, some e)) := by
  refine ⟨?_, ?_, ?_, fun a action e herror => pageNotFound_of_error herror a action⟩
  · intro p hp
    refine ⟨?_, compile_template hp⟩
    rw [eq_ofTemplate_of_compile hp, Pattern.ofTemplate]
    split
    · rename_i hslash
      obtain ⟨r, hr⟩ := List.head?_eq_some_iff.1 hslash
      exact normalize_of_slash hr
    · rename_i hslash
      exact normalize_of_not_slash hslash
  · intro hvisible hslash
    exact ⟨_, compile_slash_append hvisible hslash⟩
  · intro a action p hp
    refine ⟨_, Table.register_of_compile hp _ _ _,
      Table.register_of_compile (compile_template hp) _ _ _, ?_,
      pageNotFound_of_compile hp a action⟩
    rw [Table.entriesFor_push, if_pos rfl]

/-- A template that begins with a blank, and whose first braces stay text. -/
theorem compile_normalized_blank :
    isBlankTemplate " \x7bid:uuid\x7d/\x7ba:int\x7d" = false ∧
    (∃ p, compile " \x7bid:uuid\x7d/\x7ba:int\x7d" = .ok p ∧
      compile "/ \x7bid:uuid\x7d/\x7ba:int\x7d" = .ok p ∧ compile p.template = .ok p ∧
      p.segments = [.literal "/ \x7bid:uuid\x7d/", .capture ⟨"a", .int⟩] ∧
      ∃ routes, empty.pageNotFound " \x7bid:uuid\x7d/\x7ba:int\x7d" (fun _ _ => .crashed none) =
        (⟨routes, "/ \x7bid:uuid\x7d/\x7ba:int\x7d"⟩, none)) ∧
    empty.pageNotFound " " (fun _ _ => .crashed none) = (empty, some (.blank " ")) := by
  obtain ⟨hread, hslash, hregistered, -⟩ := compile_normalized " \x7bid:uuid\x7d/\x7ba:int\x7d"
  obtain ⟨-, -, -, hrefused⟩ := compile_normalized " "
  have hvisible : isBlankTemplate " \x7bid:uuid\x7d/\x7ba:int\x7d" = false := by decide +kernel
  obtain ⟨p, hplain, hslashed⟩ := hslash hvisible (by decide)
  obtain ⟨htext, hagain⟩ := hread p hplain
  obtain ⟨routes, -, -, -, hroutes⟩ := hregistered empty (fun _ _ => .crashed none) p hplain
  have htemplate : p.template = "/ \x7bid:uuid\x7d/\x7ba:int\x7d" := by
    rw [htext]
    decide
  have hsegments : p.segments = [.literal "/ \x7bid:uuid\x7d/", .capture ⟨"a", .int⟩] := by
    rw [eq_ofTemplate_of_compile hplain]
    decide +kernel
  rw [htemplate] at hroutes
  exact ⟨hvisible, ⟨p, hplain, hslashed, hagain, hsegments, routes, hroutes⟩,
    hrefused _ _ _ (by decide +kernel)⟩

end App

end RouteServer
