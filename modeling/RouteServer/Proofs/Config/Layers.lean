import RouteServer.Command.Run
import RouteServer.Proofs.Text.Numeral

/-
  **Settings from four sources** — each field comes from the highest source that speaks of it, and
  an error in a lower source is an error even where a higher one would have covered it.

  The sources are the command line, the environment, a settings file and the standard settings.
  Only the file and two variables can be wrong.  A variable is described by what it gives
  (`Environment.Gives`): nothing when it is not set, and otherwise the number that its text writes.
  So the environment as a whole is read exactly when both numbers are given, and what it then says
  is known field by field.
-/

namespace RouteServer

namespace Environment

/-- A text that writes a port, with or without space around it. -/
def WritesPort (value : String) (port : Nat) : Prop :=
  Text.Numeral.WritesDecimal (Text.trim value.toList) port ∧ port < 2 ^ 16

/-- A text that is accepted as a stack size. -/
def WritesStackSize (value : String) (size : Nat) : Prop := stackSize? value = some size

/-- A variable that is not set gives nothing; one that is set gives the number it writes. -/
def Gives (env : Environment) (name : String) (Writes : String → Nat → Prop) : Option Nat → Prop
  | none => env name = none
  | some n => ∃ value, env name = some value ∧ Writes value n

variable {env : Environment} {name : String} {read? : String → Option Nat}
  {Writes : String → Nat → Prop}

theorem port?_eq_some_iff {value : String} {port : Nat} :
    port? value = some port ↔ WritesPort value port :=
  Text.Numeral.unsigned?_ten_eq_some_iff

theorem number_of_unset (h : env name = none) : env.number name read? = .ok none := by
  simp only [Environment.number, h]

theorem number_of_read {value : String} {n : Nat} (h : env name = some value)
    (hread : read? value = some n) : env.number name read? = .ok (some n) := by
  simp only [Environment.number, h, hread]

theorem number_of_unread {value : String} (h : env name = some value)
    (hread : read? value = none) : env.number name read? = .error (.invalidValue name value) := by
  simp only [Environment.number, h, hread]

theorem number_eq_ok_iff (hread : ∀ value n, read? value = some n ↔ Writes value n)
    {number : Option Nat} :
    env.number name read? = .ok number ↔ env.Gives name Writes number := by
  have hgives : env.Gives name Writes number ↔
      env.Gives name (fun v n => read? v = some n) number := by
    cases number <;> simp only [Gives, hread]
  rw [hgives]
  cases hset : env name with
  | none =>
    rw [number_of_unset hset]
    cases number <;> simp [Gives, hset]
  | some value =>
    cases hvalue : read? value with
    | none =>
      rw [number_of_unread hset hvalue]
      cases number <;> simp [Gives, hset, hvalue]
    | some n =>
      rw [number_of_read hset hvalue]
      cases number <;> simp [Gives, hset, hvalue]

theorem number_port {port : Option Nat} :
    env.number "TERRIER_PORT" port? = .ok port ↔ env.Gives "TERRIER_PORT" WritesPort port :=
  number_eq_ok_iff fun _ _ => port?_eq_some_iff

theorem number_stackSize {size : Option Nat} :
    env.number "TERRIER_STACK_SIZE" stackSize? = .ok size ↔
      env.Gives "TERRIER_STACK_SIZE" WritesStackSize size :=
  number_eq_ok_iff fun _ _ => Iff.rfl

/-- What the environment says, once its numbers are known. -/
def layer (env : Environment) (port stackSize : Option Nat) : SettingsLayer where
  hostname := env "TERRIER_HOST"
  port := port
  templateDir := env "TERRIER_TEMPLATE_DIR"
  staticDir := (env "TERRIER_STATIC_DIR").map fun d => if d = "" then none else some d
  stackSize := stackSize

theorem settings_of_numbers {port size : Option Nat}
    (hport : env.number "TERRIER_PORT" port? = .ok port)
    (hsize : env.number "TERRIER_STACK_SIZE" stackSize? = .ok size) :
    env.settings = .ok (env.layer port size) := by
  have hstatic : ∀ d : String, (if d.isEmpty then none else some d) =
      if d = "" then none else some d := by
    intro d
    simp only [String.isEmpty_iff]
  simp only [Environment.settings, hport, hsize, layer, hstatic]

theorem settings_eq_ok_iff {l : SettingsLayer} :
    env.settings = .ok l ↔
      ∃ port size, env.Gives "TERRIER_PORT" WritesPort port ∧
        env.Gives "TERRIER_STACK_SIZE" WritesStackSize size ∧ l = env.layer port size := by
  constructor
  · intro h
    cases hport : env.number "TERRIER_PORT" port? with
    | error e => simp only [Environment.settings, hport, reduceCtorEq] at h
    | ok port =>
      cases hsize : env.number "TERRIER_STACK_SIZE" stackSize? with
      | error e => simp only [Environment.settings, hport, hsize, reduceCtorEq] at h
      | ok size =>
        rw [settings_of_numbers hport hsize] at h
        cases h
        exact ⟨port, size, number_port.1 hport, number_stackSize.1 hsize, rfl⟩
  · rintro ⟨port, size, hport, hsize, rfl⟩
    exact settings_of_numbers (number_port.2 hport) (number_stackSize.2 hsize)

/-- The port is looked at first, so a stack size that cannot be read does not hide it. -/
theorem settings_of_invalid_port {value : String} (hset : env "TERRIER_PORT" = some value)
    (hport : ∀ n, ¬ WritesPort value n) :
    env.settings = .error (.invalidValue "TERRIER_PORT" value) := by
  have hunread : port? value = none := by
    rw [Option.eq_none_iff_forall_ne_some]
    intro n hn
    exact hport n (port?_eq_some_iff.1 hn)
  simp only [Environment.settings, number_of_unread hset hunread]

end Environment

/-- What the settings file that is asked for says; nothing when none is asked for. -/
def SettingsFile.layer (files : FileTree) : Option String → Except ConfigError SettingsLayer
  | none => .ok .empty
  | some path => SettingsFile.load files path

namespace Settings

variable {files : FileTree} {path : Option String} {env : Environment}

theorem load_of_layer {file : SettingsLayer} (h : SettingsFile.layer files path = .ok file) :
    load files path env = env.settings.map fun l => (standard.override file).override l := by
  cases path with
  | none =>
    cases h
    rfl
  | some path =>
    have hload : SettingsFile.load files path = .ok file := h
    simp only [load, hload, withEnvironment]

theorem load_of_layer_error {e : ConfigError} (h : SettingsFile.layer files path = .error e) :
    load files path env = .error e := by
  cases path with
  | none => cases h
  | some path =>
    have hload : SettingsFile.load files path = .error e := h
    simp only [load, hload]

end Settings

namespace Command.ServeOptions

variable {o : ServeOptions} {files : FileTree} {env : Environment}

/-- Settings of which each field is the one of the highest source that speaks of it: an option of
    the command line, then a variable, then the settings file, then the standard settings. -/
structure Layered (o : ServeOptions) (env : Environment) (file : SettingsLayer) (s : Settings) :
    Prop where
  hostname : s.hostname =
    ((o.host.or (env "TERRIER_HOST")).or file.hostname).getD Settings.standard.hostname
  port : ∃ port, env.Gives "TERRIER_PORT" Environment.WritesPort port ∧
    s.port = ((o.port.or port).or file.port).getD Settings.standard.port
  templateDir : s.templateDir =
    ((o.templateDir.or (env "TERRIER_TEMPLATE_DIR")).or file.templateDir).getD
      Settings.standard.templateDir
  /-- An option always names a directory; a variable that is set to nothing switches static files
      off. -/
  staticDir : s.staticDir =
    (((o.staticDir.map some).or
      ((env "TERRIER_STATIC_DIR").map fun d => if d = "" then none else some d)).or
        file.staticDir).getD Settings.standard.staticDir
  /-- There is no option for the stack size. -/
  stackSize : ∃ size, env.Gives "TERRIER_STACK_SIZE" Environment.WritesStackSize size ∧
    s.stackSize = (size.or file.stackSize).getD Settings.standard.stackSize

theorem settings_eq_ok_iff {s : Settings} :
    o.settings files env = .ok s ↔
      ∃ file l, SettingsFile.layer files o.config = .ok file ∧ env.settings = .ok l ∧
        s = ((Settings.standard.override file).override l).override o.layer := by
  unfold ServeOptions.settings
  cases hfile : SettingsFile.layer files o.config with
  | error e => simp [Settings.load_of_layer_error hfile, Except.map]
  | ok file =>
    rw [Settings.load_of_layer hfile]
    cases env.settings with
    | error e => simp [Except.map]
    | ok l => simp [Except.map, eq_comm]

/-- Three layers over the standard settings, one field at a time. -/
theorem layered_override {file : SettingsLayer} {port size : Option Nat}
    (hport : env.Gives "TERRIER_PORT" Environment.WritesPort port)
    (hsize : env.Gives "TERRIER_STACK_SIZE" Environment.WritesStackSize size) :
    Layered o env file
      (((Settings.standard.override file).override (env.layer port size)).override o.layer) where
  hostname := by
    simp only [Settings.override_hostname, Option.getD_or]
    rfl
  port := by
    refine ⟨port, hport, ?_⟩
    simp only [Settings.override_port, Option.getD_or]
    rfl
  templateDir := by
    simp only [Settings.override_templateDir, Option.getD_or]
    rfl
  staticDir := by
    simp only [Settings.override_staticDir, Option.getD_or]
    rfl
  stackSize := by
    refine ⟨size, hsize, ?_⟩
    simp only [Settings.override_stackSize, Option.getD_or]
    rfl

/-- The settings of a server are found exactly when the settings file, if one is named, can be
    loaded and the two variables that hold numbers, if they are set, write such numbers; what the
    command line says is not asked.  Then each field is the one of its highest source.  A file that
    can be loaded leaves a port that cannot be read as the error, quoted as it was given. -/
theorem settings_layered (o : ServeOptions) (files : FileTree) (env : Environment) :
    ((∃ s, o.settings files env = .ok s) ↔
      (∃ file, SettingsFile.layer files o.config = .ok file) ∧
      (∃ port, env.Gives "TERRIER_PORT" Environment.WritesPort port) ∧
      (∃ size, env.Gives "TERRIER_STACK_SIZE" Environment.WritesStackSize size)) ∧
    (∀ s, o.settings files env = .ok s →
      ∃ file, SettingsFile.layer files o.config = .ok file ∧ Layered o env file s) ∧
    (∀ file value, SettingsFile.layer files o.config = .ok file →
      env "TERRIER_PORT" = some value → (∀ n, ¬ Environment.WritesPort value n) →
      ∃ e, o.settings files env = .error e ∧
        ∀ texts, (Failure.config e).chain texts =
          [configFailure, "invalid value for TERRIER_PORT: '" ++ value ++ "'"]) := by
  refine ⟨?_, ?_, ?_⟩
  · constructor
    · rintro ⟨s, hs⟩
      obtain ⟨file, l, hfile, hl, -⟩ := settings_eq_ok_iff.1 hs
      obtain ⟨port, size, hport, hsize, -⟩ := Environment.settings_eq_ok_iff.1 hl
      exact ⟨⟨file, hfile⟩, ⟨port, hport⟩, ⟨size, hsize⟩⟩
    · rintro ⟨⟨file, hfile⟩, ⟨port, hport⟩, ⟨size, hsize⟩⟩
      have hl : env.settings = .ok (env.layer port size) :=
        Environment.settings_eq_ok_iff.2 ⟨port, size, hport, hsize, rfl⟩
      exact ⟨_, settings_eq_ok_iff.2 ⟨file, _, hfile, hl, rfl⟩⟩
  · intro s hs
    obtain ⟨file, l, hfile, hl, rfl⟩ := settings_eq_ok_iff.1 hs
    obtain ⟨port, size, hport, hsize, rfl⟩ := Environment.settings_eq_ok_iff.1 hl
    exact ⟨file, hfile, layered_override hport hsize⟩
  · intro file value hfile hset hport
    refine ⟨.invalidValue "TERRIER_PORT" value, ?_, fun _ => rfl⟩
    unfold ServeOptions.settings
    rw [Settings.load_of_layer hfile, Environment.settings_of_invalid_port hset hport]
    rfl

/-- A settings file with a port in it. -/
def siteFiles : FileTree := .ofFiles [
  ("site.yaml", Text.Utf8.encodeString "hostname: example.org\nport: 3000\nstack_size: 1024\n")]

def siteOptions : ServeOptions := ⟨some "site.yaml", none, none, none, some "views", false⟩

/-- A port with a sign and space around it, and static files switched off. -/
def siteVariables : Environment :=
  .ofList [("TERRIER_STATIC_DIR", ""), ("TERRIER_PORT", " +9100\n")]

theorem settings_layered_site :
    (∃ s, siteOptions.settings siteFiles siteVariables = .ok s ∧ s.hostname = "example.org" ∧
      s.port = 9100 ∧ s.templateDir = "views" ∧ s.staticDir = none ∧ s.stackSize = 1024) ∧
    ∃ e, { siteOptions with port := some 80 }.settings siteFiles
        (.ofList [("TERRIER_STACK_SIZE", "0"), ("TERRIER_PORT", "many")]) = .error e ∧
      ∀ texts, (Failure.config e).chain texts =
        [configFailure, "invalid value for TERRIER_PORT: 'many'"] := by
  have hfile : SettingsFile.layer siteFiles (some "site.yaml") =
      .ok ⟨some "example.org", some 3000, none, none, some 1024⟩ := by decide +kernel
  constructor
  · have hport : siteVariables.number "TERRIER_PORT" Environment.port? = .ok (some 9100) := by
      decide +kernel
    have hsize : siteVariables.number "TERRIER_STACK_SIZE" Environment.stackSize? = .ok none := by
      decide +kernel
    obtain ⟨hfound, hfields, -⟩ := settings_layered siteOptions siteFiles siteVariables
    obtain ⟨s, hs⟩ := hfound.2
      ⟨⟨_, hfile⟩, ⟨_, Environment.number_port.1 hport⟩, ⟨_, Environment.number_stackSize.1 hsize⟩⟩
    obtain ⟨file, hthis, hlayered⟩ := hfields s hs
    obtain rfl : _ = file := Except.ok.inj (hfile.symm.trans hthis)
    obtain ⟨port, hgiven, hsport⟩ := hlayered.port
    obtain rfl : some 9100 = port :=
      Except.ok.inj (hport.symm.trans (Environment.number_port.2 hgiven))
    obtain ⟨size, hgiven, hssize⟩ := hlayered.stackSize
    obtain rfl : none = size :=
      Except.ok.inj (hsize.symm.trans (Environment.number_stackSize.2 hgiven))
    exact ⟨s, hs, hlayered.hostname.trans (by decide +kernel), hsport.trans rfl,
      hlayered.templateDir.trans (by decide +kernel),
      hlayered.staticDir.trans (by decide +kernel), hssize.trans rfl⟩
  · have hunread : Environment.port? "many" = none := by decide +kernel
    apply (settings_layered _ _ _).2.2 _ "many" hfile (by decide +kernel)
    intro n hn
    rw [Environment.port?_eq_some_iff.2 hn] at hunread
    cases hunread

end Command.ServeOptions

end RouteServer
