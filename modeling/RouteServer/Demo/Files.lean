import RouteServer.Files.Tree

/-
  **Files of the demonstration** — its two pages and its style sheet.
-/

namespace RouteServer.Demo

def textOfLines (lines : List String) : List UInt8 :=
  Text.Utf8.encodeString (String.join (lines.map (· ++ "\n")))

def indexPage : List UInt8 := textOfLines [
  "<!doctype html>",
  "<html>",
  "  <head>",
  "    <meta charset=\"utf-8\">",
  "    <title>terrier</title>",
  "    <link rel=\"stylesheet\" href=\"/site.css\">",
  "  </head>",
  "  <body>",
  "    <h1>\x7b\x7b message \x7d\x7d</h1>",
  "    <p>\x7b\x7b users_count \x7d\x7d users loaded.</p>",
  "  </body>",
  "</html>"]

def notFoundPage : List UInt8 := textOfLines [
  "<!doctype html>",
  "<html>",
  "  <head>",
  "    <meta charset=\"utf-8\">",
  "    <title>Page not found</title>",
  "    <link rel=\"stylesheet\" href=\"/site.css\">",
  "  </head>",
  "  <body>",
  "    <h1>Page not found</h1>",
  "    <p>Nothing is served at <code>\x7b\x7b path \x7d\x7d</code>.</p>",
  "  </body>",
  "</html>"]

def styleSheet : List UInt8 := textOfLines [
  "body \x7b",
  "  font-family: sans-serif;",
  "  margin: 2rem auto;",
  "  max-width: 40rem;",
  "\x7d",
  "",
  "code \x7b",
  "  background: #f4f4f4;",
  "  padding: 0 0.25rem;",
  "\x7d"]

/-- The directories that the standard settings name. -/
def files : FileTree := FileTree.ofFiles [
  ("templates/index.html", indexPage),
  ("templates/pagenotfound.html", notFoundPage),
  ("static/site.css", styleSheet)]

end RouteServer.Demo
