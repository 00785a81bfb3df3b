import RouteServer.Command.Run
import RouteServer.Demo.Files

/-
  **The program** — the command line on a real machine.

  Everything is decided elsewhere.  Here the environment and the settings file are read, texts are
  printed, and a server answers the requests on the standard input in the order in which they
  stand there.  The pages and the style sheet of the demonstration are part of the program.  Errors
  in templates and in settings files are reported without details.
-/

namespace RouteServer.Program

def templateTexts : View.ErrorTexts := fun name _ _ => "cannot render " ++ name

def yamlTexts : YamlTexts := fun _ => "not a mapping of settings"

/-- The environment variables that make a difference. -/
def variableNames : List String := [
  "TERRIER_CONFIG", "TERRIER_HOST", "TERRIER_PORT", "TERRIER_TEMPLATE_DIR", "TERRIER_STATIC_DIR",
  "TERRIER_STACK_SIZE", "TERRIER_LOG_LEVEL", "TERRIER_LOG_FORMAT", "TERRIER_LOG_ASYNC",
  "TERRIER_LOG_TARGET_FILTER", "TERRIER_LOG_INCLUDE_LOCATION", "RUST_LOG"]

def readEnvironment : IO Environment := do
  let known ← variableNames.filterMapM fun name => do
    return (← IO.getEnv name).map (name, ·)
  return .ofList known

def readFile? (path : String) : IO (Option (List UInt8)) :=
  try
    return some (← IO.FS.readBinFile path).toList
  catch _ => return none

/-- The files that a command needs: those of the demonstration, and the settings file that it
    names. -/
def readFiles (settings : Option String) : IO FileTree := do
  let some path := settings | return Demo.files
  let some bytes ← readFile? path | return Demo.files
  return { Demo.files with files := Demo.files.files ++ (FileTree.ofFiles [(path, bytes)]).files }

/-- The bytes on the standard input, up to its end. -/
def readInput : IO (List UInt8) := do
  let input ← IO.getStdin
  let mut bytes := ByteArray.empty
  repeat
    let chunk ← input.read 65536
    if chunk.isEmpty then break
    bytes := bytes ++ chunk
  return bytes.toList

/-- Answers the requests on the standard input. -/
def answerInput (s : Service) : IO Unit := do
  let sent ← readInput
  let output ← IO.getStdout
  for answer in Wire.converse s (sent.length + 1) sent do
    output.write (ByteArray.mk answer.bytes.toArray)
  output.flush

def finish : Command.Ending → IO Unit
  | .done output => IO.print output
  | .serving _ s => answerInput s
  | .failed f => IO.eprint (f.report yamlTexts)
  | .refused e => if e.isAnswer then IO.print e.message else IO.eprint e.message

end RouteServer.Program

open RouteServer in
/-- Runs the program with the words of its command line. -/
def main (words : List String) : IO UInt32 := do
  let env ← Program.readEnvironment
  let files ← Program.readFiles (Command.settingsFile? env words)
  for warning in Command.warnings env words do
    IO.eprintln warning
  let ending := Command.run Program.templateTexts words files env .isolated
  Program.finish ending
  return UInt32.ofNat (ending.exitCode?.getD 0)
