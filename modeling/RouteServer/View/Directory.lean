import RouteServer.Files.Static
import RouteServer.View.Page

/-
  **Templates in a directory** — finding templates by their names below a base directory.

  A template name is a path like that of a static file, and as confined: it cannot leave the
  directory.  A file that is no UTF-8 text is found but cannot be used, which is a different error
  from not being there.
-/

namespace RouteServer.View

def Library.ofDirectory (files : FileTree) (base : String) : Library := fun name =>
  match (FileTree.below? base name).bind fun file => (files.read file).toOption with
  | none => .error .templateNotFound
  | some bytes =>
    match Text.Utf8.decode? bytes with
    | none => .error .invalidOperation
    | some text => Template.parse text

/-- The end that an error puts to rendering, with the words of the engine for it.  A block that is
    not there is not expected, and is not reported as an error. -/
def Rendered.ofError (text : String) : TemplateError → Rendered
  | .strayBlock => .crashed (some "called `Option::unwrap()` on a `None` value")
  | e => .failed (.template e text)

/-- Renders views from the templates of a library. -/
def Renderer.ofLibrary (texts : ErrorTexts) (library : Library) : Renderer := fun name context =>
  match library name with
  | .error .templateNotFound => .failed (.notFound name)
  | .error e => .ofError (texts name context e) e
  | .ok t =>
    match t.render library name context with
    | .ok page => .page (String.ofList page)
    | .error e => .ofError (texts name context e) e

end RouteServer.View
