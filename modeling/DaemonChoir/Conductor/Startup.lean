import DaemonChoir.Conductor.Reconfiguration
set_option autoImplicit false

/-!
# Conductor: how the daemon starts (`conductor/src/main.rs`)

The command line, the configuration file that the first start writes, and the checks before
the tasks are spawned.  A command line is a sequence of settings, each of which may take the
argument after it; whatever `main` does not know it skips.
-/

namespace DaemonChoir.Conductor

open DaemonChoir.Common DaemonChoir.Foundation

/-! ## The code -/

/-- The loop over the arguments after the name of the program, with `config_path` and
`simulate`. -/
def parseArgs (configPath : Option String) (simulate : Bool) :
    List String → Option String × Bool
  | [] => (configPath, simulate)
  | arg :: rest =>
      if arg = "--config" ∨ arg = "-c" then
        match rest with
        -- nothing to take
        | [] => (configPath, simulate)
        | path :: rest => parseArgs (some path) simulate rest
      else if arg = "--simulate" ∨ arg = "-s" then parseArgs configPath true rest
      else parseArgs configPath simulate rest

/-- `PathBuf::push` of a relative name. -/
def pushPath (base name : String) : String :=
  if base.toList = [] ∨ base.toList.getLast? = some '/' then base ++ name
  else base ++ "/" ++ name

/-- `resolved_config_path`; `home` is the variable `HOME`. -/
def resolveConfigPath (home configPath : Option String) : String :=
  configPath.getD <|
    [".config", "daemon-choir", "daemon-choir.config.toml"].foldl pushPath
      (home.getD "/home/user")

/-- What exists at a path, and what reading it gives. -/
abbrev Files : Type := String → Option (Except String String)

/-- What `fs::write` does: the text is in the file, or whatever the failure leaves. -/
inductive WriteOutcome where
  | written
  | failed (left : Option (Except String String))
  deriving Repr

/-- `default_toml` -/
def defaultToml : String :=
  String.intercalate "\n"
    ["", "[daemon]", "window_ms = 50", "log_level = \"info\"", "log_format = \"pretty\"",
      "control_api_port = 9876", "simulate = true", "", "[probes]",
      "enabled = [\"cpu_sched\", \"mem_pressure\", \"net_io\", \"proc_lifecycle\"]", "",
      "[backends]", "[[backends.osc]]", "name = \"supercollider\"",
      "address = \"127.0.0.1:57120\"", "", "[[backends.osc]]", "name = \"puredata\"",
      "address = \"127.0.0.1:57121\"", "",
      "[[mapping]]", "source_metric = \"cpu.sched.latency_p95\"",
      "osc_address = \"/choir/voice/0/frequency\"", "transform = \"exponential\"",
      "input_range = [0.0, 1.0]", "output_range = [220.0, 880.0]", "",
      "[[mapping]]", "source_metric = \"cpu.sched.context_rate\"",
      "osc_address = \"/choir/voice/0/amplitude\"", "transform = \"linear\"",
      "input_range = [0.0, 1.0]", "output_range = [0.0, 1.0]", "",
      "[[mapping]]", "source_metric = \"mem.reclaim.pressure\"",
      "osc_address = \"/choir/voice/1/frequency\"", "transform = \"exponential\"",
      "input_range = [0.0, 1.0]", "output_range = [110.0, 440.0]", "",
      "[[mapping]]", "source_metric = \"net.tx.bytes_norm\"",
      "osc_address = \"/choir/voice/2/filter_resonance\"", "transform = \"linear\"",
      "input_range = [0.0, 1.0]", "output_range = [0.1, 0.9]", "",
      "[[mapping]]", "source_metric = \"net.rx.bytes_norm\"",
      "osc_address = \"/choir/voice/2/frequency\"", "transform = \"logarithmic\"",
      "input_range = [0.0, 1.0]", "output_range = [440.0, 1760.0]", "",
      "[[mapping]]", "source_metric = \"proc.exec.rate\"",
      "osc_address = \"/choir/voice/3/trigger\"", "transform = \"step\"",
      "input_range = [0.0, 1.0]", "output_range = [0.0, 1.0]", "",
      "[meta]", "schema_version = \"1\"", ""]

/-- Where no file exists, the default file is written. -/
def ensureConfigFile (path : String) (outcome : WriteOutcome) (files : Files) : Files :=
  match files path with
  | some _ => files
  | none =>
      match outcome with
      | .written => Function.update files path (some (.ok defaultToml))
      | .failed left => Function.update files path left

/-- What `main` knows before it spawns the tasks. -/
structure Launch (F : Type) where
  configPath : String
  config : Config F
  runSimulate : Bool

/-- `main` up to the port check: the files afterwards, and `none` for a panic or an exit. -/
def launch {F : Type} (parsers : Parsers F) (args : List String) (home : Option String)
    (outcome : WriteOutcome) (files : Files) : Option (Launch F) × Files :=
  let (configPath, simulate) := parseArgs none false args
  let path := resolveConfigPath home configPath
  let files := ensureConfigFile path outcome files
  let content := (files path).getD (.error "No such file or directory")
  ((Running.loadConfig parsers content).map fun config =>
    { configPath := path, config := config
      runSimulate := simulate || config.daemon.simulate }, files)

/-! ## Command lines -/

/-- A setting on the command line. -/
inductive Setting where
  | config (path : String)
  | simulate
  | ignored
  deriving DecidableEq, Repr

/-- The arguments that spell a setting. -/
inductive Spells : Setting → List String → Prop
  | configLong (path : String) : Spells (.config path) ["--config", path]
  | configShort (path : String) : Spells (.config path) ["-c", path]
  | simulateLong : Spells .simulate ["--simulate"]
  | simulateShort : Spells .simulate ["-s"]
  | ignored {arg : String} (h : arg ∉ ["--config", "-c", "--simulate", "-s"]) :
      Spells .ignored [arg]

/-- The arguments of a whole command line; a last `--config` without a path says nothing. -/
inductive CommandLine : List Setting → List String → Prop
  | nil : CommandLine [] []
  | danglingLong : CommandLine [] ["--config"]
  | danglingShort : CommandLine [] ["-c"]
  | cons {setting : Setting} {arguments : List String} {settings : List Setting}
      {rest : List String} (first : Spells setting arguments)
      (later : CommandLine settings rest) :
      CommandLine (setting :: settings) (arguments ++ rest)

/-- The path of a setting. -/
def Setting.path? : Setting → Option String
  | .config path => some path
  | _ => none

/-- The path in force after settings: the last one. -/
def lastPath (settings : List Setting) : Option String :=
  (settings.filterMap Setting.path?).getLast?

theorem lastPath_config (path : String) (settings : List Setting) (before : Option String) :
    (lastPath (.config path :: settings)).or before = (lastPath settings).or (some path) := by
  have hpaths : (Setting.config path :: settings).filterMap Setting.path? =
      path :: settings.filterMap Setting.path? := rfl
  rw [lastPath, hpaths, List.getLast?_cons, lastPath]
  cases (settings.filterMap Setting.path?).getLast? with
  | none => rfl
  | some last => rfl

/-- A path is taken, whatever it looks like. -/
theorem parseArgs_config {arg : String} (h : arg = "--config" ∨ arg = "-c")
    (configPath : Option String) (simulate : Bool) (path : String) (rest : List String) :
    parseArgs configPath simulate (arg :: path :: rest) = parseArgs (some path) simulate rest := by
  rw [parseArgs, if_pos h]

theorem parseArgs_simulate {arg : String} (h : arg = "--simulate" ∨ arg = "-s")
    (configPath : Option String) (simulate : Bool) (rest : List String) :
    parseArgs configPath simulate (arg :: rest) = parseArgs configPath true rest := by
  have hconfig : ¬(arg = "--config" ∨ arg = "-c") := by
    rcases h with rfl | rfl
    · decide
    · decide
  cases rest with
  | nil => simp only [parseArgs, hconfig, h, if_true, if_false]
  | cons next rest => rw [parseArgs, if_neg hconfig, if_pos h]

theorem parseArgs_ignored {arg : String}
    (h : arg ∉ ["--config", "-c", "--simulate", "-s"]) (configPath : Option String)
    (simulate : Bool) (rest : List String) :
    parseArgs configPath simulate (arg :: rest) = parseArgs configPath simulate rest := by
  simp only [List.mem_cons, List.not_mem_nil, or_false, not_or] at h
  obtain ⟨hlong, hshort, hsimulate, hs⟩ := h
  have hconfig : ¬(arg = "--config" ∨ arg = "-c") := not_or.mpr ⟨hlong, hshort⟩
  have hflag : ¬(arg = "--simulate" ∨ arg = "-s") := not_or.mpr ⟨hsimulate, hs⟩
  cases rest with
  | nil => simp only [parseArgs, hconfig, hflag, if_false]
  | cons next rest => rw [parseArgs, if_neg hconfig, if_neg hflag]

/-- The loop reads a command line setting by setting. -/
theorem parseArgs_of_commandLine {settings : List Setting} {args : List String}
    (line : CommandLine settings args) (configPath : Option String) (simulate : Bool) :
    parseArgs configPath simulate args =
      ((lastPath settings).or configPath, simulate || settings.contains .simulate) := by
  induction line generalizing configPath simulate with
  | nil => simp [parseArgs, lastPath]
  | danglingLong => simp [parseArgs, lastPath]
  | danglingShort => simp [parseArgs, lastPath]
  | cons first later ih =>
      cases first with
      | configLong path =>
          rw [List.cons_append, List.singleton_append, parseArgs_config (.inl rfl), ih,
            lastPath_config]
          rfl
      | configShort path =>
          rw [List.cons_append, List.singleton_append, parseArgs_config (.inr rfl), ih,
            lastPath_config]
          rfl
      | simulateLong =>
          rw [List.singleton_append, parseArgs_simulate (.inl rfl), ih]
          simp [lastPath, Setting.path?]
      | simulateShort =>
          rw [List.singleton_append, parseArgs_simulate (.inr rfl), ih]
          simp [lastPath, Setting.path?]
      | ignored h =>
          rw [List.singleton_append, parseArgs_ignored h, ih]
          simp [lastPath, Setting.path?]

/-- Every list of arguments is a command line. -/
theorem exists_commandLine (args : List String) : ∃ settings, CommandLine settings args := by
  induction hlength : args.length using Nat.strongRecOn generalizing args with
  | ind length ih =>
      cases args with
      | nil => exact ⟨[], .nil⟩
      | cons arg rest =>
          subst hlength
          by_cases hconfig : arg = "--config" ∨ arg = "-c"
          · cases rest with
            | nil =>
                rcases hconfig with rfl | rfl
                · exact ⟨[], .danglingLong⟩
                · exact ⟨[], .danglingShort⟩
            | cons path rest =>
                have hlt : rest.length < (arg :: path :: rest).length := by
                  simp only [List.length_cons]
                  omega
                obtain ⟨settings, later⟩ := ih rest.length hlt rest rfl
                rcases hconfig with rfl | rfl
                · exact ⟨_, .cons (.configLong path) later⟩
                · exact ⟨_, .cons (.configShort path) later⟩
          · obtain ⟨settings, later⟩ := ih rest.length (by simp) rest rfl
            rw [not_or] at hconfig
            obtain ⟨hlong, hshort⟩ := hconfig
            by_cases hsimulate : arg = "--simulate"
            · subst hsimulate
              exact ⟨_, .cons .simulateLong later⟩
            · by_cases hs : arg = "-s"
              · subst hs
                exact ⟨_, .cons .simulateShort later⟩
              · have hother : arg ∉ ["--config", "-c", "--simulate", "-s"] := by
                  simp [hlong, hshort, hsimulate, hs]
                exact ⟨_, .cons (.ignored hother) later⟩

/-- Every list of arguments is a command line, and `main` takes from it the last path and
whether any setting is the flag; an argument taken as a path is no flag. -/
theorem command_line_read (args : List String) :
    (∃ settings, CommandLine settings args) ∧
      ∀ settings, CommandLine settings args →
        parseArgs none false args = (lastPath settings, settings.contains .simulate) := by
  refine ⟨exists_commandLine args, fun settings line => ?_⟩
  rw [parseArgs_of_commandLine line, Option.or_none, Bool.false_or]

/-! ## Starting again -/

section Launch

variable {F : Type} {parsers : Parsers F} {args : List String} {home : Option String}
  {outcome : WriteOutcome} {files : Files}

/-- A file that exists is never written. -/
theorem ensureConfigFile_of_exists {path : String} (h : files path ≠ none) :
    ensureConfigFile path outcome files = files := by
  unfold ensureConfigFile
  cases hfile : files path with
  | none => exact absurd hfile h
  | some content => rfl

theorem ensureConfigFile_of_ne {path other : String} (h : other ≠ path) :
    ensureConfigFile path outcome files other = files other := by
  unfold ensureConfigFile
  cases files path with
  | some content => rfl
  | none =>
      cases outcome with
      | written => exact Function.update_of_ne h _ _
      | failed left => exact Function.update_of_ne h _ _

theorem ensureConfigFile_again {path : String}
    (h : ensureConfigFile path outcome files path ≠ none) (other : WriteOutcome) :
    ensureConfigFile path other (ensureConfigFile path outcome files) =
      ensureConfigFile path outcome files :=
  ensureConfigFile_of_exists h

theorem exists_of_loadConfig {content : Option (Except String String)} {config : Config F}
    (h : Running.loadConfig parsers (content.getD (.error "No such file or directory")) =
      some config) : content ≠ none := by
  rintro rfl
  cases h

/-- Whatever the first start has written, a second one with the same command line comes to
the same configuration and changes no file; and no start touches a file that is there. -/
theorem launch_again {launched : Launch F}
    (h : (launch parsers args home outcome files).1 = some launched)
    (other : WriteOutcome) :
    launch parsers args home other (launch parsers args home outcome files).2 =
        launch parsers args home outcome files ∧
      ∀ path, files path ≠ none →
        (launch parsers args home outcome files).2 path = files path := by
  obtain ⟨config, hload, rfl⟩ := Option.map_eq_some_iff.mp h
  have hagain := ensureConfigFile_again (exists_of_loadConfig hload) other
  constructor
  · simp only [launch, hagain]
  · intro path hpath
    by_cases hsame : path = resolveConfigPath home (parseArgs none false args).1
    · subst hsame
      exact congrFun (ensureConfigFile_of_exists hpath) _
    · exact ensureConfigFile_of_ne hsame

end Launch

end DaemonChoir.Conductor
