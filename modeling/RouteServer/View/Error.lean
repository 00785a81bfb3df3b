import RouteServer.Json.Value

/-
  **Render errors** — why a view could not be rendered.

  An error of the template engine has a kind, which decides what becomes of it, and a text for
  people.  The text names a detail and a place besides the kind, and is the engine's own
  (`ErrorTexts`).  An engine that breaks off reports no error at all.
-/

namespace RouteServer.View

/-- What ends the reading or the evaluation of a template early. -/
inductive TemplateError where
  | syntaxError
  /-- a backslash in a quoted text is followed by what stands for no character -/
  | badEscape
  /-- an attribute of an undefined value was asked for -/
  | undefined
  | invalidOperation
  | unknownFilter
  | unknownFunction
  /-- a function was called without what it needs -/
  | missingArgument
  /-- a template that this one extends or includes does not exist -/
  | templateNotFound
  /-- evaluating an included template failed -/
  | badInclude
  /-- evaluating the overridden content of a block failed -/
  | badBlock
  /-- the running block is not one of the templates whose blocks are in use: this is never reported,
      the engine breaks off -/
  | strayBlock
  deriving DecidableEq, Repr

/-- What an error becomes outside of the part that it happened in.  Where the engine breaks off,
    nothing outside can say more. -/
def TemplateError.outside (outer inner : TemplateError) : TemplateError :=
  if inner = .strayBlock then inner else outer

inductive RenderError where
  /-- the named template is missing, or its name leads out of the template directory -/
  | notFound (name : String)
  /-- the engine reports an error of a kind, in its own words -/
  | template (kind : TemplateError) (text : String)
  deriving DecidableEq, Repr

def RenderError.message : RenderError → String
  | .notFound name => "template not found: " ++ name
  | .template _ text => "template error: " ++ text

/-- How rendering a view ends. -/
inductive Rendered where
  | page (text : String)
  | failed (e : RenderError)
  /-- the renderer broke off, with a message or without one -/
  | crashed (message : Option String)
  deriving DecidableEq, Repr

/-- Makes a page of a template name and a context. -/
abbrev Renderer := String → Json → Rendered

/-- The words of the template engine for an error of a kind, when a template was to be rendered with
    a context. -/
abbrev ErrorTexts := String → Json → TemplateError → String

end RouteServer.View
