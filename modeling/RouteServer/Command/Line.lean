import RouteServer.Text.Numeral
import RouteServer.Text.Split
import RouteServer.Config.Environment

/-
  **Command lines** — from the words behind the name of the program to a command.

  A command comes first and its options follow.  An option takes the next word as its value unless
  that word is itself an option, or has the value attached.  A value is looked at when the next
  option is reached, or the end: so of two mistakes a word that is no option is reported before a
  bad value in front of it.
-/

namespace RouteServer

/-- What `serve` is told. -/
structure Command.ServeOptions where
  config : Option String
  host : Option String
  port : Option Nat
  staticDir : Option String
  templateDir : Option String
  /-- puts the names of controllers in front of their routes -/
  withNames : Bool
  deriving DecidableEq, Repr

inductive Command where
  | serve (options : Command.ServeOptions)
  | routes (withNames : Bool)
  deriving DecidableEq, Repr

namespace Command

/-- Why words are not carried out as a command. -/
inductive UsageError where
  /-- help was asked for -/
  | help
  /-- the version was asked for -/
  | version
  /-- there is no command -/
  | noCommand
  | unknownCommand
  | unknownArgument
  /-- a value is missing, or empty where it must not be -/
  | missingValue
  /-- a value is not of the right form -/
  | badValue
  /-- an option without a value was given one -/
  | unwantedValue
  /-- an option was given twice -/
  | repeated
  deriving DecidableEq, Repr

/-- Whether the program did what it was asked for, and merely has no command to carry out. -/
def UsageError.isAnswer : UsageError → Bool
  | .help => true
  | .version => true
  | _ => false

def versionText : String := "terrier 0.1.0-alpha.1\n"

def usageText : String := String.join ([
  "Usage: terrier <COMMAND>",
  "",
  "Commands:",
  "  serve   Serve the demo application",
  "  routes  Print the demo application's routes in resolution order",
  "  help    Print this text",
  "",
  "Options of serve:",
  "  -c, --config <CONFIG>              YAML configuration file",
  "      --host <HOST>                  Hostname to bind",
  "  -p, --port <PORT>                  Port to bind",
  "      --static-dir <STATIC_DIR>      Directory served for unmatched GET requests",
  "      --template-dir <TEMPLATE_DIR>  Directory views are rendered from",
  "",
  "Options of serve and routes:",
  "      --prefix-routes                Prefix controller routes with the controller name"].map
    (· ++ "\n"))

/-- What is said about words that are not carried out. -/
def UsageError.message : UsageError → String
  | .help => usageText
  | .version => versionText
  | .noCommand => usageText
  | .unknownCommand => "error: unrecognized subcommand\n"
  | .unknownArgument => "error: unexpected argument\n"
  | .missingValue => "error: a value is required\n"
  | .badValue => "error: invalid value\n"
  | .unwantedValue => "error: unexpected value\n"
  | .repeated => "error: the argument cannot be used multiple times\n"

/-- The options with values. -/
inductive Valued where
  | config
  | host
  | port
  | staticDir
  | templateDir
  deriving DecidableEq, Repr

inductive Opt where
  | valued (v : Valued)
  | withNames
  | help
  deriving DecidableEq, Repr

/-- Which options a command has. -/
inductive Verb where
  | serve
  | routes
  deriving DecidableEq, Repr

def Verb.ofName? (s : String) : Option Verb :=
  if s = "serve" then some .serve else if s = "routes" then some .routes else none

def Opt.ofLong? (verb : Verb) (name : String) : Option Opt :=
  match verb, name with
  | _, "help" => some .help
  | _, "prefix-routes" => some .withNames
  | .serve, "config" => some (.valued .config)
  | .serve, "host" => some (.valued .host)
  | .serve, "port" => some (.valued .port)
  | .serve, "static-dir" => some (.valued .staticDir)
  | .serve, "template-dir" => some (.valued .templateDir)
  | _, _ => none

def Opt.ofShort? (verb : Verb) (c : Char) : Option Opt :=
  match verb, c with
  | _, 'h' => some .help
  | .serve, 'c' => some (.valued .config)
  | .serve, 'p' => some (.valued .port)
  | _, _ => none

/-- How far reading has come: the options so far, and the one that waits for a value or has one
    that was not looked at yet. -/
structure State where
  options : ServeOptions
  pending : Option (Valued × Option String)

namespace State

def start : State := ⟨⟨none, none, none, none, none, false⟩, none⟩

/-- Sets a text that was not set. -/
def setOnce (old : Option α) (new : Except UsageError α) (set : α → ServeOptions) :
    Except UsageError ServeOptions :=
  if old.isSome then .error .repeated else new.map set

def nonEmpty (s : String) : Except UsageError String :=
  if s.isEmpty then .error .missingValue else .ok s

def port (s : String) : Except UsageError Nat :=
  match Text.Numeral.signed64? s.toList with
  | some n => if 0 ≤ n ∧ n ≤ 0xFFFF then .ok n.toNat else .error .badValue
  | none => .error .badValue

def store (o : ServeOptions) (v : Valued) (s : String) : Except UsageError ServeOptions :=
  match v with
  | .config => setOnce o.config (nonEmpty s) fun x => { o with config := some x }
  | .host => setOnce o.host (.ok s) fun x => { o with host := some x }
  | .port => setOnce o.port (port s) fun x => { o with port := some x }
  | .staticDir => setOnce o.staticDir (nonEmpty s) fun x => { o with staticDir := some x }
  | .templateDir => setOnce o.templateDir (nonEmpty s) fun x => { o with templateDir := some x }

/-- Looks at the value of the option that is pending. -/
def settle (st : State) : Except UsageError State :=
  match st.pending with
  | none => .ok st
  | some (_, none) => .error .missingValue
  | some (v, some s) => (store st.options v s).map fun options => ⟨options, none⟩

/-- Reads an option, with the value that is attached to it. -/
def option (st : State) (o : Opt) (attached : Option String) : Except UsageError State :=
  match o, attached with
  | .valued v, some s =>
    match st.settle with
    | .ok st => (store st.options v s).map fun options => ⟨options, none⟩
    | .error e => .error e
  | .valued v, none => st.settle.map fun st => { st with pending := some (v, none) }
  | .withNames, none =>
    match st.settle with
    | .ok st =>
      if st.options.withNames then .error .repeated
      else .ok { st with options := { st.options with withNames := true } }
    | .error e => .error e
  | .help, none =>
    match st.settle with
    | .ok _ => .error .help
    | .error e => .error e
  | _, some _ => .error .unwantedValue

/-- Reads short options that stand together; the rest behind one with a value is its value. -/
def shorts (verb : Verb) (st : State) : List Char → Except UsageError State
  | [] => .ok st
  | c :: r =>
    match Opt.ofShort? verb c with
    | none => .error .unknownArgument
    | some (.valued v) =>
      let value := match r with
        | [] => none
        | '=' :: r => some (String.ofList r)
        | r => some (String.ofList r)
      st.option (.valued v) value
    | some o =>
      match st.option o none with
      | .ok st => shorts verb st r
      | .error e => .error e

def word (st : State) (s : String) : Except UsageError State :=
  match st.pending with
  | some (v, none) => .ok { st with pending := some (v, some s) }
  | _ => .error .unknownArgument

/-- Cuts a long option at its first `=`. -/
def cutLong (s : List Char) : String × Option String :=
  match Text.splitFirst '=' s with
  | some (name, value) => (String.ofList name, some (String.ofList value))
  | none => (String.ofList s, none)

/-- Reads the words behind a command.  Two dashes end the options, and no word may follow them. -/
def readAll (verb : Verb) (st : State) : List String → Except UsageError State
  | [] => st.settle
  | s :: r =>
    let next :=
      match s.toList with
      | ['-', '-'] => if r.isEmpty then st.settle else .error .unknownArgument
      | '-' :: '-' :: long =>
        let (name, value) := cutLong long
        match Opt.ofLong? verb name with
        | some o => st.option o value
        | none => .error .unknownArgument
      | '-' :: c :: short => shorts verb st (c :: short)
      | _ => st.word s
    match next with
    | .ok st => readAll verb st r
    | .error e => .error e

end State

/-- What `help` shows: only commands have help of their own. -/
def readHelp : List String → UsageError
  | [] => .help
  | [s] => if (Verb.ofName? s).isSome || s == "help" then .help else .unknownCommand
  | _ => .unknownCommand

/-- What words before any command mean: the program itself has options without values only. -/
def readTop (s : String) (rest : List String) : UsageError :=
  match s.toList with
  | ['-', '-'] =>
    match rest with
    | [] => .noCommand
    | name :: _ =>
      if (Verb.ofName? name).isSome || name == "help" then .unknownArgument else .unknownCommand
  | '-' :: '-' :: long =>
    let (name, value) := State.cutLong long
    if name = "help" then if value.isSome then .unwantedValue else .help
    else if name = "version" then if value.isSome then .unwantedValue else .version
    else .unknownArgument
  | '-' :: c :: _ => if c = 'h' then .help else if c = 'V' then .version else .unknownArgument
  | _ => .unknownCommand

/-- The options of `serve`, where the environment may name the settings file. -/
def serveOptions (env : Environment) (words : List String) : Except UsageError ServeOptions :=
  match State.readAll .serve .start words with
  | .error e => .error e
  | .ok st =>
    if st.options.config.isSome then .ok st.options
    else match env "TERRIER_CONFIG" with
      | none => .ok st.options
      | some path => (State.nonEmpty path).map fun p => { st.options with config := some p }

def parse (env : Environment) : List String → Except UsageError Command
  | [] => .error .noCommand
  | s :: r =>
    if s = "help" then .error (readHelp r)
    else match Verb.ofName? s with
      | some .serve => (serveOptions env r).map .serve
      | some .routes => (State.readAll .routes .start r).map fun st => .routes st.options.withNames
      | none => .error (readTop s r)

end Command

end RouteServer
