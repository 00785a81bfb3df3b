/-
  **Settings** — what a server needs to know before it starts.

  Settings come in layers: a file, the environment, the command line.  A layer says something about
  some of the fields and nothing about the others, so a layer over settings changes the fields it
  speaks of and no other (the `override` lemmas below).  Static files can be switched off, which is
  something a layer says, and not the same as saying nothing.
-/

namespace RouteServer

structure Settings where
  hostname : String
  port : Nat
  /-- the directory of the templates -/
  templateDir : String
  /-- the directory of the static files; without one none are served -/
  staticDir : Option String
  /-- in bytes -/
  stackSize : Nat
  deriving DecidableEq, Repr

/-- What one source says about the settings. -/
structure SettingsLayer where
  hostname : Option String
  port : Option Nat
  templateDir : Option String
  staticDir : Option (Option String)
  stackSize : Option Nat
  deriving DecidableEq, Repr

def SettingsLayer.empty : SettingsLayer := ⟨none, none, none, none, none⟩

namespace Settings

def standard : Settings := ⟨"localhost", 8000, "templates", some "static", 0x8000⟩

/-- Settings with a layer over them. -/
def override (s : Settings) (l : SettingsLayer) : Settings where
  hostname := l.hostname.getD s.hostname
  port := l.port.getD s.port
  templateDir := l.templateDir.getD s.templateDir
  staticDir := l.staticDir.getD s.staticDir
  stackSize := l.stackSize.getD s.stackSize

def address (s : Settings) : String := s.hostname ++ ":" ++ toString s.port

@[simp] theorem override_hostname (s : Settings) (l : SettingsLayer) :
    (s.override l).hostname = l.hostname.getD s.hostname := rfl

@[simp] theorem override_port (s : Settings) (l : SettingsLayer) :
    (s.override l).port = l.port.getD s.port := rfl

@[simp] theorem override_templateDir (s : Settings) (l : SettingsLayer) :
    (s.override l).templateDir = l.templateDir.getD s.templateDir := rfl

@[simp] theorem override_staticDir (s : Settings) (l : SettingsLayer) :
    (s.override l).staticDir = l.staticDir.getD s.staticDir := rfl

@[simp] theorem override_stackSize (s : Settings) (l : SettingsLayer) :
    (s.override l).stackSize = l.stackSize.getD s.stackSize := rfl

@[simp] theorem override_empty (s : Settings) : s.override .empty = s := rfl

end Settings

end RouteServer
