import DaemonChoir.Conductor.Destinations
import DaemonChoir.Conductor.DispatchLatency
import DaemonChoir.Conductor.ProbeClocks
import DaemonChoir.Conductor.Simulator
import DaemonChoir.Conductor.Startup
set_option autoImplicit false

/-!
# Conductor: the daemon as it comes

A configuration whose rules name known metrics and have ordered bounds is played as it
stands for as long as the settings stay: the engine never panics, every mapped snapshot has
one parameter for each rule, and packets go to the backends of the file only.  The file that a
first start writes is such a configuration.

`Playable` is a condition on a rule list that can be checked by looking at it, and the
default list of the source meets it.  Under it `mapRules` never answers `none`, so by
`Cascade` no loop of the pipeline is ever left; a simulator leaves its own on shutdown, or
panics over a clock before 1970 (`ProbeClocks`).  The start itself is `Startup`: a first
start writes the default file and goes on with what the parser makes of it, which is an
input.
-/

namespace DaemonChoir.Conductor

open DaemonChoir.Common DaemonChoir.Foundation Float64

/-! ## Settings that stay -/

namespace Tasks

section Settings

variable {ι F : Type}

/-- The settings are rewritten with what they are, if at all: so does a reload of a file that
nobody has edited. -/
def KeepsSettings (config : Config F) : TasksLabel ι F → Prop
  | .output (.write write) => write ∈ reloadWrites config
  | _ => True

/-- The cells, and the backends that the dispatcher is about to send to, are those of the
configuration. -/
structure AsConfigured (config : Config F) (tasks : Tasks ι F) : Prop where
  cells : tasks.cells = .new config
  targets : ∀ backend ∈ tasks.dispatcher.targets, backend ∈ config.backends.osc

theorem perform_of_mem_reloadWrites {config : Config F} {write : CellWrite F}
    (h : write ∈ reloadWrites config) :
    (ConfigCells.new config).perform write = .new config := by
  simp only [reloadWrites, List.mem_cons, List.not_mem_nil, or_false] at h
  rcases h with rfl | rfl | rfl
  · rfl
  · rfl
  · rfl

variable [Float64 F] [Libm F] [DecidableEq ι] {encode : OscBundle F → Option (List UInt8)}
  {config : Config F} {tasks next : Tasks ι F} {label : TasksLabel ι F}

theorem AsConfigured.step (before : tasks.AsConfigured config)
    (hkept : KeepsSettings config label) (taken : tasks.step encode label = some next) :
    next.AsConfigured config := by
  cases step_moves taken with
  | output label delivery hlabel hstep =>
      have moves := Delivery.step_moves hstep
      refine ⟨?_, fun backend hbackend => ?_⟩
      · have hcells : tasks.delivery.cells = .new config := before.cells
        show delivery.cells = .new config
        cases moves with
        | written write =>
            show tasks.delivery.cells.perform write = .new config
            rw [hcells]
            exact perform_of_mem_reloadWrites hkept
        | _ => exact hcells
      · rcases moves.targets hbackend with htarget | ⟨_, htaken⟩
        · exact before.targets backend htarget
        · rw [show tasks.delivery.cells = .new config from before.cells] at htaken
          exact htaken
  | _ => exact ⟨before.cells, before.targets⟩

/-! ## Configurations that are played -/

/-- Every rule names a metric and has its bounds in order. -/
structure Playable (config : Config F) : Prop where
  known : ∀ rule ∈ config.mapping, rule.sourceMetric ∈ metricNames
  ordered : ∀ rule ∈ config.mapping, le rule.inputRange.1 rule.inputRange.2 = true

omit [Libm F] in
theorem Playable.filter_known (playable : Playable config) (metrics : MetricMap F) :
    (config.mapping.filter fun rule => (metrics.getValue rule.sourceMetric).isSome) =
      config.mapping :=
  List.filter_eq_self.mpr fun rule hrule =>
    (metrics.getValue_isSome_iff _).mpr (playable.known rule hrule)

theorem Playable.mapped (playable : Playable config) {metrics : MetricMap F}
    {params : List (MappedParam F)} (h : mapRules metrics config.mapping = some params) :
    List.Forall₂ (IsMapped metrics) config.mapping params := by
  have hall := mapRules_forall₂ h
  rwa [playable.filter_known] at hall

/-- A playable rule never panics. -/
theorem Playable.mapRules_ne_none (playable : Playable config) (metrics : MetricMap F) :
    mapRules metrics config.mapping ≠ none := by
  have hsome := (mapRules_isSome_iff metrics config.mapping).mpr
    fun rule hrule _ => .inr (playable.ordered rule hrule)
  intro hnone
  rw [hnone] at hsome
  cases hsome

theorem Playable.frame (playable : Playable config) (snapshot : StateSnapshot F) :
    ∃ params, mappingFrame (ConfigCells.new config).mappingRules snapshot = .mapped params ∧
      List.Forall₂ (IsMapped snapshot.metrics) config.mapping params := by
  rcases mappingFrame_cases (ConfigCells.new config).mappingRules snapshot with
    ⟨hpoisoned, _⟩ | ⟨_, hnone, _⟩ | ⟨params, _, hmapped, hframe⟩
  · cases hpoisoned
  · exact absurd hnone (playable.mapRules_ne_none _)
  · exact ⟨params, hframe, playable.mapped hmapped⟩

end Settings

end Tasks

namespace Clocked

section Settings

variable {ι F : Type} [Float64 F] [Libm F] [DecidableEq ι]
  {encode : OscBundle F → Option (List UInt8)} {config : Config F} {kinds : ι → ProbeKind}
  {db : Database F} {trace : List (Clocked ι F × ClockedLabel ι F)} {final : Clocked ι F}

/-- The settings are rewritten with what they are, if at all. -/
def KeepsSettings (config : Config F) : ClockedLabel ι F → Prop
  | .task move => Tasks.KeepsSettings config move
  | .beforeEpoch _ => True

theorem asConfigured_of_run (run : Run (step encode) (started kinds config db) trace final)
    (hkept : ∀ visit ∈ trace, KeepsSettings config visit.2) :
    ∀ visit ∈ trace, visit.1.tasks.AsConfigured config := by
  refine (run.invariant_of_labels (fun clocked => clocked.tasks.AsConfigured config)
    (KeepsSettings config) ⟨rfl, fun _ hbackend => by cases hbackend⟩ ?_ hkept).2
  intro clocked next label before hlabel taken
  rcases step_cases taken with ⟨move, rfl, hstep, _⟩ | ⟨_, _, _, htasks, _⟩
  · exact before.step hlabel hstep
  · rwa [htasks]

/-- The configuration is played as it stands. -/
structure Plays (config : Config F) (trace : List (Clocked ι F × ClockedLabel ι F))
    (final : Clocked ι F) : Prop where
  intact : Intact trace final
  /-- Every snapshot that the engine holds is mapped to one parameter for each rule, with the
  address of the rule and the transformed metric. -/
  frames : ∀ visit ∈ trace, ∀ snapshot, visit.1.tasks.engine = .holding snapshot →
    ∃ params,
      mappingFrame visit.1.tasks.cells.mappingRules snapshot.item = .mapped params ∧
        List.Forall₂ (IsMapped snapshot.item.metrics) config.mapping params
  /-- Every packet goes to a backend of the file. -/
  destinations : ∀ visit ∈ trace, ∀ label backend, visit.2 = .task (.output label) →
    Delivery.destination (visit.1.tasks.delivery, label) = some backend →
      backend ∈ config.backends.osc

/-- A playable configuration is played for as long as the settings stay. -/
theorem plays_of_run (playable : Tasks.Playable config)
    (run : Run (step encode) (started kinds config db) trace final)
    (hkept : ∀ visit ∈ trace, KeepsSettings config visit.2) : Plays config trace final := by
  have hconfigured := asConfigured_of_run run hkept
  have hframes : ∀ visit ∈ trace, ∀ snapshot, visit.1.tasks.engine = .holding snapshot →
      ∃ params,
        mappingFrame visit.1.tasks.cells.mappingRules snapshot.item = .mapped params ∧
          List.Forall₂ (IsMapped snapshot.item.metrics) config.mapping params := by
    intro visit hmem snapshot _
    rw [(hconfigured visit hmem).cells]
    exact playable.frame snapshot.item
  refine ⟨intact_of_engine run ?_, hframes, ?_⟩
  · -- a panic would need a frame that is not mapped
    rw [ne_eq, engine_stopped_iff run]
    rintro ⟨visit, hmem, _, _, _, snapshot, hholding, hpanicked⟩
    obtain ⟨params, hmapped, _⟩ := hframes visit hmem snapshot hholding
    rw [hpanicked] at hmapped
    cases hmapped
  · intro visit hmem label backend _ hdestination
    exact (hconfigured visit hmem).targets backend
      (Delivery.mem_targets_of_destination hdestination)

end Settings

end Clocked

/-! ## The file of a first start -/

/-- The tasks that the probe manager spawns for a configuration. -/
def Launch.kinds {F : Type} (launched : Launch F) (ebpfFeature : Bool)
    (loadFile : ℕ → Option Bpf) : Fin launched.config.probes.enabled.length → ProbeKind :=
  Simulation.startedKinds ebpfFeature launched.runSimulate loadFile
    launched.config.probes.enabled

section Default

variable {F : Type} [Float64 F]

/-- What `default_toml` says. -/
def defaultFileConfig : Config F where
  daemon := {
    windowMs := 50, logLevel := "info", logFormat := "pretty"
    controlApiPort := 9876, simulate := true }
  probes := { enabled := ["cpu_sched", "mem_pressure", "net_io", "proc_lifecycle"] }
  backends := { osc := [
    { name := "supercollider", address := "127.0.0.1:57120" },
    { name := "puredata", address := "127.0.0.1:57121" }] }
  mapping := [
    { sourceMetric := "cpu.sched.latency_p95", oscAddress := "/choir/voice/0/frequency"
      transform := "exponential"
      inputRange := (lit 0, lit 1), outputRange := (lit 220, lit 880) },
    { sourceMetric := "cpu.sched.context_rate", oscAddress := "/choir/voice/0/amplitude"
      transform := "linear"
      inputRange := (lit 0, lit 1), outputRange := (lit 0, lit 1) },
    { sourceMetric := "mem.reclaim.pressure", oscAddress := "/choir/voice/1/frequency"
      transform := "exponential"
      inputRange := (lit 0, lit 1), outputRange := (lit 110, lit 440) },
    { sourceMetric := "net.tx.bytes_norm", oscAddress := "/choir/voice/2/filter_resonance"
      transform := "linear"
      inputRange := (lit 0, lit 1), outputRange := (lit (1 / 10), lit (9 / 10)) },
    { sourceMetric := "net.rx.bytes_norm", oscAddress := "/choir/voice/2/frequency"
      transform := "logarithmic"
      inputRange := (lit 0, lit 1), outputRange := (lit 440, lit 1760) },
    { sourceMetric := "proc.exec.rate", oscAddress := "/choir/voice/3/trigger"
      transform := "step"
      inputRange := (lit 0, lit 1), outputRange := (lit 0, lit 1) }]
  meta_ := { schemaVersion := "1" }

theorem playable_default : Tasks.Playable (defaultFileConfig : Config F) where
  known := by
    simp only [defaultFileConfig, List.forall_mem_cons]
    simp [metricNames]
  ordered := by
    have hunit : le (lit 0 : F) (lit 1) = true := le_lit (by norm_num)
    simp only [defaultFileConfig, List.forall_mem_cons, hunit, true_and]
    simp

variable {parsers : Parsers F} (args : List String) (home : Option String) (files : Files)

theorem launch_fresh (hparse : parsers.fromStr defaultToml = .ok defaultFileConfig)
    (hfresh : files (resolveConfigPath home (parseArgs none false args).1) = none) :
    (launch parsers args home .written files).1 = some {
      configPath := resolveConfigPath home (parseArgs none false args).1
      config := defaultFileConfig
      runSimulate := true } := by
  have hload : Running.loadConfig parsers (.ok defaultToml) = some defaultFileConfig := by
    rw [Running.loadConfig, hparse]
    exact if_neg (show ¬ (9876 : UInt16) = 0 by decide)
  simp only [launch, ensureConfigFile, hfresh, Function.update_self, Option.getD_some, hload,
    Option.map_some, Option.some.injEq]
  rw [show (defaultFileConfig : Config F).daemon.simulate = true from rfl, Bool.or_true]

variable [Libm F] (encode : OscBundle F → Option (List UInt8))

/-- A first start writes a file that it then plays, if the parser reads it as what it says:
all probes are simulated, no loop is left but by a simulator after a shutdown or over its
clock, every snapshot is mapped to the six voices, and packets go to the two ports on this
machine, for as long as the settings stay.  A second start comes to the same and writes nothing. -/
theorem fresh_start (hparse : parsers.fromStr defaultToml = .ok defaultFileConfig)
    (hfresh : files (resolveConfigPath home (parseArgs none false args).1) = none) :
    ∃ launched, (launch parsers args home .written files).1 = some launched ∧
      launched.config = defaultFileConfig ∧
      (∀ outcome,
        launch parsers args home outcome (launch parsers args home .written files).2 =
          launch parsers args home .written files) ∧
      ∀ ebpfFeature loadFile,
        (∀ probe, launched.kinds ebpfFeature loadFile probe = .simulated) ∧
          ∀ db trace final,
            Run (Clocked.step encode)
              (Clocked.started (launched.kinds ebpfFeature loadFile) launched.config db)
              trace final →
            (∀ visit ∈ trace, Clocked.KeepsSettings launched.config visit.2) →
              Clocked.Plays launched.config trace final := by
  have hlaunch := launch_fresh args home files hparse hfresh
  refine ⟨_, hlaunch, rfl, fun outcome => (launch_again hlaunch outcome).1, ?_⟩
  intro ebpfFeature loadFile
  refine ⟨fun probe => Simulation.startedKinds_simulated (by simp) loadFile _ probe, ?_⟩
  intro db trace final run hkept
  exact Clocked.plays_of_run playable_default run hkept

end Default

/-- A TOML parser that knows the file of a first start. -/
def firstParsers : Parsers ℚ where
  fromStr text := if text = defaultToml then .ok defaultFileConfig else .error "unknown file"
  extract _ := .error ⟨415, "Unsupported Media Type"⟩

/-- A simulator is lost to its clock, and a snapshot reaches the first backend, after a
reload of the same file. -/
def firstFrame : List (ClockedLabel (Fin 4) ℚ) :=
  .beforeEpoch 1 :: [.tick 1000000, .publish,
    .output (.write (.rules defaultFileConfig.mapping)), .offer,
    .output .receiveSnapshot, .output .readRules, .output .sendParams, .output .receiveParams,
    .output .readBackends, .output (.stamp ⟨1001000000⟩), .output .offer,
    .output (.sendTo true)].map .task

/-- The first packet of a fresh daemon goes to the first port. -/
theorem fresh_start_frame :
    ∃ launched trace final,
      (launch firstParsers ["-v"] (some "/root") .written fun _ => none).1 = some launched ∧
      Run (Clocked.step Delivery.encodeZeros)
        (Clocked.started (launched.kinds true fun _ => none) launched.config
          ⟨some .sqlite, ⟨[], []⟩⟩) trace final ∧
      Clocked.Plays launched.config trace final ∧ final.tasks.emissions = 1 ∧
      final.tasks.dispatcher.targets =
        [{ name := "puredata", address := "127.0.0.1:57121" }] := by
  have hparse : firstParsers.fromStr defaultToml = .ok defaultFileConfig := by
    simp only [firstParsers, if_true]
  have hfirst := launch_fresh ["-v"] (some "/root") (fun _ => none) hparse rfl
  obtain ⟨launched, hlaunch, _, _, hplays⟩ :=
    fresh_start ["-v"] (some "/root") (fun _ => none) Delivery.encodeZeros hparse rfl
  rw [hfirst, Option.some.injEq] at hlaunch
  subst hlaunch
  have run : Run (Clocked.step Delivery.encodeZeros)
      (Clocked.started
        (Launch.kinds ⟨"/root/.config/daemon-choir/daemon-choir.config.toml",
          (defaultFileConfig : Config ℚ), true⟩ true fun _ => none) defaultFileConfig
        ⟨some .sqlite, ⟨[], []⟩⟩) _ _ := execute_sound firstFrame rfl
  refine ⟨_, _, _, hfirst, run, (hplays true _).2 _ _ _ run ?_, rfl, rfl⟩
  refine List.forall_mem_cons.mpr ⟨trivial, List.forall_mem_cons.mpr ⟨trivial,
    List.forall_mem_cons.mpr ⟨trivial, List.forall_mem_cons.mpr ⟨?_, ?_⟩⟩⟩⟩
  · exact List.mem_cons_of_mem _ List.mem_cons_self
  · simp [Clocked.KeepsSettings, Tasks.KeepsSettings]

end DaemonChoir.Conductor
