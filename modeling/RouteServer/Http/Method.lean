/-
  **Methods** — the first word of a request.

  Any token can be a method: one or more of the letters, digits and marks that HTTP allows in a
  token.  Methods are compared as they are written, so `get` is not `GET`.
-/

namespace RouteServer

def isTokenChar (c : Char) : Bool :=
  c.isAlphanum ||
  c ∈ ['!', '#', '$', '%', '&', '\'', '*', '+', '-', '.', '^', '_', '\x60', '|', '~']

/-- A token has at least one character, and only token characters. -/
def isToken (s : String) : Bool := !s.isEmpty && s.toList.all isTokenChar

structure Method where
  token : String
  deriving DecidableEq, Repr

namespace Method

def get : Method := ⟨"GET"⟩

def head : Method := ⟨"HEAD"⟩

def post : Method := ⟨"POST"⟩

def put : Method := ⟨"PUT"⟩

def patch : Method := ⟨"PATCH"⟩

def delete : Method := ⟨"DELETE"⟩

/-- The method with this name, if the name is a token. -/
def ofToken? (s : String) : Option Method := if isToken s then some ⟨s⟩ else none

end Method

end RouteServer
