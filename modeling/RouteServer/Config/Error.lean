import RouteServer.Files.Tree

/-
  **Configuration errors** — why settings could not be loaded.

  A text that is no settings file is kept as it is.  What is wrong with it is said in the words of
  the reader of YAML, which are its own (`YamlTexts`).
-/

namespace RouteServer

inductive ReadError where
  | file (e : FileError)
  | notText
  deriving DecidableEq, Repr

def ReadError.message : ReadError → String
  | .file e => e.message
  | .notText => "stream did not contain valid UTF-8"

inductive ConfigError where
  /-- the settings file cannot be read -/
  | unreadable (path : String) (e : ReadError)
  /-- the settings file has this text, which is no list of settings -/
  | malformed (text : String)
  /-- a variable holds what cannot be its value -/
  | invalidValue (key value : String)
  deriving DecidableEq, Repr

/-- What the reader of YAML says of a text that it refuses. -/
abbrev YamlTexts := String → String

def ConfigError.message (texts : YamlTexts) : ConfigError → String
  | .unreadable path e => "cannot read config file " ++ path ++ ": " ++ e.message
  | .malformed text => "invalid config file: " ++ texts text
  | .invalidValue key value => "invalid value for " ++ key ++ ": '" ++ value ++ "'"

end RouteServer
