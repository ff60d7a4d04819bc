import DaemonChoir.Common.Schema
import DaemonChoir.Conductor.Aggregator
import DaemonChoir.Conductor.ConfigUpdates
set_option autoImplicit false

/-!
# Conductor: configuration over the life of the daemon

`main` reads the file once and hands its values out, some to cells that the handlers may
rewrite and some to tasks that never look again.  What the two parsers make of a text is
an input.

The state is what the daemon has in memory after any sequence of reloads, updates of the
backends and ticks; the answers of the two parsers are a parameter, since `toml` and
`serde_json` are not modelled.  A reload is accepted when the file is there and parses, and
installs the parsed configuration in all three cells; what `main` has handed to a task at
startup stays with the task.

What is in force is thus always a parsed configuration, with the backends of a later update
in it.  It need not conform to the published schema: the parser checks the types of the
fields, and but for port 0 at startup no code refuses a file over a bound, an enumeration
or a pattern.  The equivalence over
whole runs says so from the other side: all settings in force conform exactly when all that
were installed do.
-/

namespace DaemonChoir.Conductor

open DaemonChoir.Common DaemonChoir.Foundation

/-- What `main` has made of the configuration, and what has become of it. -/
structure Running (F : Type) where
  aggregator : Aggregator F
  /-- The period of the `interval` of `Aggregator::run`. -/
  interval : Duration
  cells : ConfigCells F

/-- What reaches the daemon from outside. -/
inductive RunningLabel where
  /-- The aggregator receives an event. -/
  | receive (event : RawEvent)
  /-- The aggregator ticks: the clock and the loss counter. -/
  | tick (nowUs lostEventsDelta : UInt64)
  /-- `POST /v1/config/reload`, with what reading the file gives. -/
  | reload (content : Except String String)
  /-- `PUT /v1/config/backends`. -/
  | putBackends (body : String)
  deriving Repr

/-- `toml::from_str` and the extractor `Json<Vec<OscBackendConfig>>`. -/
structure Parsers (F : Type) where
  fromStr : String → Except String (Config F)
  extract : String → Except Response (List OscBackendConfig)

namespace Running

variable {F : Type}

/-! ## The code -/

/-- `main` up to the port check: `none` is a panic or an exit. -/
def loadConfig (parsers : Parsers F) (content : Except String String) : Option (Config F) :=
  match content with
  | .error _ => none
  | .ok text =>
      match parsers.fromStr text with
      | .error _ => none
      | .ok config => if config.daemon.controlApiPort = 0 then none else some config

/-- The extractor and `handle_config_backends`. -/
def serveBackends (parsers : Parsers F) (body : String) (cells : ConfigCells F) :
    Response × ConfigCells F :=
  match parsers.extract body with
  | .error rejection => (rejection, cells)
  | .ok newBackends => handleConfigBackends newBackends cells

/-- The update that an input makes, if it is accepted. -/
def accepted (parsers : Parsers F) : RunningLabel → Option (UpdateRequest F)
  | .reload (.ok text) =>
      match parsers.fromStr text with
      | .error _ => none
      | .ok newCfg => some (.reload newCfg)
  | .putBackends body =>
      match parsers.extract body with
      | .error _ => none
      | .ok newBackends => some (.backends newBackends)
  | _ => none

variable [Float64 F]

/-- `main` with a configuration that passed its checks. -/
def launched (config : Config F) : Running F :=
  let aggregator := Aggregator.new config.daemon.windowMs
  { aggregator := aggregator
    interval := .fromMillis aggregator.windowMs
    cells := .new config }

/-- One event, tick or request. -/
def step (parsers : Parsers F) (running : Running F) : RunningLabel → Option (Running F)
  | .receive event => some { running with aggregator := running.aggregator.push event }
  | .tick nowUs lostEventsDelta =>
      match running.aggregator.tick nowUs lostEventsDelta with
      | none => none
      | some (next, _) => some { running with aggregator := next }
  | .reload content =>
      some { running with
        cells := (handleConfigReload content parsers.fromStr running.cells).2 }
  | .putBackends body =>
      some { running with cells := (serveBackends parsers body running.cells).2 }

/-- The snapshot of a tick. -/
def emitted : Running F × RunningLabel → Option (StateSnapshot F)
  | (running, .tick nowUs lostEventsDelta) =>
      (running.aggregator.tick nowUs lostEventsDelta).map Prod.snd
  | _ => none

/-! ## What a step does -/

variable {parsers : Parsers F} {running next : Running F} {label : RunningLabel}

/-- A step serves the update that it accepts and leaves the cells alone otherwise. -/
theorem step_cells (taken : running.step parsers label = some next) :
    next.cells =
      match accepted parsers label with
      | none => running.cells
      | some request => request.serve running.cells := by
  cases label with
  | receive event =>
      cases taken
      rfl
  | tick nowUs lostEventsDelta =>
      simp only [step] at taken
      split at taken
      · cases taken
      · cases taken
        rfl
  | reload content =>
      cases taken
      cases content with
      | error message => rfl
      | ok text =>
          simp only [accepted, handleConfigReload]
          cases parsers.fromStr text <;> rfl
  | putBackends body =>
      cases taken
      simp only [accepted, serveBackends]
      cases parsers.extract body <;> rfl

theorem step_window (taken : running.step parsers label = some next) :
    next.aggregator.windowMs = running.aggregator.windowMs ∧
      next.interval = running.interval := by
  cases label with
  | receive event =>
      cases taken
      exact ⟨rfl, rfl⟩
  | tick nowUs lostEventsDelta =>
      obtain ⟨metrics, _, htick⟩ := running.aggregator.tick_eq nowUs lostEventsDelta
      simp only [step, htick] at taken
      cases taken
      exact ⟨rfl, rfl⟩
  | reload content =>
      cases taken
      exact ⟨rfl, rfl⟩
  | putBackends body =>
      cases taken
      exact ⟨rfl, rfl⟩

theorem emitted_windowMs {visit : Running F × RunningLabel} {snapshot : StateSnapshot F}
    (h : emitted visit = some snapshot) : snapshot.windowMs = visit.1.aggregator.windowMs := by
  obtain ⟨running, label⟩ := visit
  cases label with
  | tick nowUs lostEventsDelta =>
      obtain ⟨metrics, _, htick⟩ := running.aggregator.tick_eq nowUs lostEventsDelta
      simp only [emitted, htick, Option.map_some, Option.some.injEq] at h
      rw [← h]
  | _ => cases h

end Running

/-! ## What an update leaves in the cells -/

namespace UpdateRequest

variable {F : Type} {cells : ConfigCells F}

theorem serve_healthy (healthy : cells.Healthy) (request : UpdateRequest F) :
    (request.serve cells).Healthy :=
  ConfigCells.healthy_foldl healthy request.writes

theorem serve_reload (healthy : cells.Healthy) (config : Config F) :
    ((reload config).serve cells).currentConfig.value = config ∧
      ((reload config).serve cells).mappingRules.value = config.mapping ∧
      ((reload config).serve cells).oscBackends.value = config.backends.osc := by
  simp [serve, writes, reloadWrites, ConfigCells.perform, RwLock.write_value,
    healthy.currentConfig, healthy.mappingRules, healthy.oscBackends]

theorem serve_backends (healthy : cells.Healthy) (list : List OscBackendConfig) :
    ((backends list : UpdateRequest F).serve cells).currentConfig.value =
        { cells.currentConfig.value with
          backends := { cells.currentConfig.value.backends with osc := list } } ∧
      ((backends list : UpdateRequest F).serve cells).mappingRules.value =
        cells.mappingRules.value ∧
      ((backends list : UpdateRequest F).serve cells).oscBackends.value = list := by
  simp [serve, writes, backendsWrites, ConfigCells.perform, RwLock.write_value,
    healthy.currentConfig, healthy.oscBackends]

end UpdateRequest

/-! ## Conformance -/

/-- The three cells satisfy the schema. -/
structure ConfigCells.Conform {F : Type} (cells : ConfigCells F) : Prop where
  currentConfig : Schema.Conforms cells.currentConfig.value
  mappingRules : Schema.RulesConform cells.mappingRules.value
  oscBackends : Schema.BackendsConform cells.oscBackends.value

/-- The three cells satisfy what the schema asks of the sections other than `meta`. -/
structure ConfigCells.SettingsConform {F : Type} (cells : ConfigCells F) : Prop where
  currentConfig : Schema.SettingsConform cells.currentConfig.value
  mappingRules : Schema.RulesConform cells.mappingRules.value
  oscBackends : Schema.BackendsConform cells.oscBackends.value

/-- What a request installs satisfies the schema, apart from `meta`. -/
def UpdateRequest.SettingsConform {F : Type} : UpdateRequest F → Prop
  | .reload config => Schema.SettingsConform config
  | .backends list => Schema.BackendsConform list

section Conformance

variable {F : Type}

theorem ConfigCells.settingsConform_new_iff (config : Config F) :
    (ConfigCells.new config).SettingsConform ↔ Schema.SettingsConform config := by
  constructor
  · intro h
    exact h.currentConfig
  · intro h
    exact ⟨h, h.mapping, h.backends⟩

/-- Conforming cells stay conforming exactly when the request conforms. -/
theorem UpdateRequest.serve_settingsConform_iff {cells : ConfigCells F}
    (healthy : cells.Healthy) (conform : cells.SettingsConform) (request : UpdateRequest F) :
    (request.serve cells).SettingsConform ↔ request.SettingsConform := by
  cases request with
  | reload config =>
      obtain ⟨hconfig, hrules, hbackends⟩ := serve_reload healthy config
      constructor
      · intro h
        have hcell := h.currentConfig
        rwa [hconfig] at hcell
      · intro h
        refine ⟨?_, ?_, ?_⟩
        · rw [hconfig]
          exact h
        · rw [hrules]
          exact h.mapping
        · rw [hbackends]
          exact h.backends
  | backends list =>
      obtain ⟨hconfig, hrules, hbackends⟩ := serve_backends healthy list
      constructor
      · intro h
        have hcell := h.oscBackends
        rwa [hbackends] at hcell
      · intro h
        refine ⟨?_, ?_, ?_⟩
        · rw [hconfig]
          exact Schema.settingsConform_withBackends conform.currentConfig h
        · rw [hrules]
          exact conform.mappingRules
        · rw [hbackends]
          exact h

end Conformance

namespace Running

variable {F : Type} [Float64 F] {parsers : Parsers F} {config : Config F}
  {trace : List (Running F × RunningLabel)} {final : Running F}

/-- No handler poisons a lock. -/
theorem healthy_of_run (run : Run (step parsers) (launched config) trace final) :
    final.cells.Healthy := by
  apply run.state_invariant (fun running => running.cells.Healthy)
  · exact ConfigCells.healthy_new config
  · intro running next label healthy taken
    rw [step_cells taken]
    cases accepted parsers label with
    | none => exact healthy
    | some request => exact UpdateRequest.serve_healthy healthy request

theorem step_settingsConform_iff {running next : Running F} {label : RunningLabel}
    (taken : running.step parsers label = some next) (healthy : running.cells.Healthy)
    (conform : running.cells.SettingsConform) :
    next.cells.SettingsConform ↔
      ∀ request, accepted parsers label = some request → request.SettingsConform := by
  rw [step_cells taken]
  cases accepted parsers label with
  | none => simpa using conform
  | some request =>
      rw [UpdateRequest.serve_settingsConform_iff healthy conform]
      simp

/-- All states of a run conform exactly when everything that was accepted does. -/
theorem always_settingsConform_iff (run : Run (step parsers) (launched config) trace final) :
    ((∀ visit ∈ trace, visit.1.cells.SettingsConform) ∧ final.cells.SettingsConform) ↔
      Schema.SettingsConform config ∧ ∀ visit ∈ trace, ∀ request,
        accepted parsers visit.2 = some request → request.SettingsConform := by
  induction run with
  | nil =>
      have hstart : (launched config).cells.SettingsConform ↔ Schema.SettingsConform config :=
        ConfigCells.settingsConform_new_iff config
      simp [hstart]
  | @snoc trace before next label earlier taken ih =>
      have healthy := healthy_of_run earlier
      simp only [List.forall_mem_append, List.forall_mem_singleton]
      constructor
      · intro h
        obtain ⟨⟨hvisits, hbefore⟩, hnext⟩ := h
        obtain ⟨hconfig, hrequests⟩ := ih.mp ⟨hvisits, hbefore⟩
        exact ⟨hconfig, hrequests, (step_settingsConform_iff taken healthy hbefore).mp hnext⟩
      · intro h
        obtain ⟨hconfig, hrequests, hlast⟩ := h
        obtain ⟨hvisits, hbefore⟩ := ih.mpr ⟨hconfig, hrequests⟩
        exact ⟨⟨hvisits, hbefore⟩, (step_settingsConform_iff taken healthy hbefore).mpr hlast⟩

omit [Float64 F] in
theorem port_of_loadConfig {content : Except String String}
    (h : loadConfig parsers content = some config) : config.daemon.controlApiPort ≠ 0 := by
  unfold loadConfig at h
  split at h
  · cases h
  · split at h
    · cases h
    · split at h
      · cases h
      · rename_i hport
        cases h
        exact hport

omit [Float64 F] in
theorem status_of_not_accepted {content : Except String String}
    (h : accepted parsers (.reload content) = none) (cells : ConfigCells F) :
    (handleConfigReload content parsers.fromStr cells).1.status = 409 := by
  unfold handleConfigReload
  split
  · rfl
  · rename_i text
    split
    · rfl
    · rename_i newCfg hparse
      simp [accepted, hparse] at h

/-- What can be read and parsed becomes active, and nothing else does: the cells satisfy
the schema throughout a run exactly when the startup file and every accepted update do. -/
theorem parsed_configuration_active {content : Except String String}
    (hload : loadConfig parsers content = some config)
    (run : Run (step parsers) (launched config) trace final) :
    config.daemon.controlApiPort ≠ 0 ∧
      (((∀ visit ∈ trace, visit.1.cells.SettingsConform) ∧ final.cells.SettingsConform) ↔
        Schema.SettingsConform config ∧ ∀ visit ∈ trace, ∀ request,
          accepted parsers visit.2 = some request → request.SettingsConform) ∧
      ∀ visit ∈ trace, accepted parsers visit.2 = none →
        (∀ next, visit.1.step parsers visit.2 = some next → next.cells = visit.1.cells) ∧
          ∀ reread, visit.2 = .reload reread →
            (handleConfigReload reread parsers.fromStr visit.1.cells).1.status = 409 := by
  refine ⟨port_of_loadConfig hload, always_settingsConform_iff run, ?_⟩
  intro visit _ hrejected
  constructor
  · intro next taken
    have hcells := step_cells taken
    rwa [hrejected] at hcells
  · intro reread hlabel
    rw [hlabel] at hrejected
    exact status_of_not_accepted hrejected visit.1.cells

/-! ### Three files -/

/-- A file with one rule and one backend. -/
def oneRuleText : String :=
  "[[backends.osc]]\nname = \"supercollider\"\naddress = \"127.0.0.1:57120\"\n\n" ++
  "[[mapping]]\nsource_metric = \"net.tx.bytes_norm\"\nosc_address = \"/daemon/net/tx\"\n"

/-- What the parser makes of it: the ranges and the transform are the defaults. -/
def oneRuleConfig : Config ℚ :=
  { (Config.default : Config ℚ) with
    backends := ⟨[⟨"supercollider", "127.0.0.1:57120"⟩]⟩
    mapping := [⟨"net.tx.bytes_norm", "/daemon/net/tx", "linear", (0, 1), (0, 1)⟩] }

/-- A file with another rule, and windows of 100 ms. -/
def otherRuleText : String :=
  "[daemon]\nwindow_ms = 100\n\n[[mapping]]\nsource_metric = \"proc.exec.rate\"\n" ++
  "osc_address = \"/daemon/proc/exec\"\ntransform = \"step\"\n"

def otherRuleConfig : Config ℚ :=
  { (Config.default : Config ℚ) with
    daemon := { DaemonConfig.default with windowMs := 100 }
    mapping := [⟨"proc.exec.rate", "/daemon/proc/exec", "step", (0, 1), (0, 1)⟩] }

/-- A file with windows longer than the schema allows. -/
def longWindowText : String := "[daemon]\nwindow_ms = 600\n"

def longWindowConfig : Config ℚ :=
  { Config.default with daemon := { DaemonConfig.default with windowMs := 600 } }

/-- A list of one backend. -/
def oneBackendBody : String := "[\x7b\"name\":\"puredata\",\"address\":\"127.0.0.1:57121\"\x7d]"

/-- The two parsers on those texts. -/
def someParsers : Parsers ℚ where
  fromStr text :=
    if text = oneRuleText then .ok oneRuleConfig
    else if text = otherRuleText then .ok otherRuleConfig
    else if text = longWindowText then .ok longWindowConfig
    else .error "TOML parse error"
  extract body :=
    if body = oneBackendBody then .ok [⟨"puredata", "127.0.0.1:57121"⟩]
    else .error ⟨422, "Failed to deserialize the JSON body into the target type"⟩

theorem settingsConform_oneRule : Schema.SettingsConform oneRuleConfig where
  daemon := (Schema.conforms_default (F := ℚ)).settings.daemon
  probes := (Schema.conforms_default (F := ℚ)).settings.probes
  backends := by
    intro backend hbackend
    obtain rfl := List.mem_singleton.mp hbackend
    exact (by decide : Schema.addressPattern "127.0.0.1:57120" = true)
  mapping := by
    intro rule hrule
    obtain rfl := List.mem_singleton.mp hrule
    exact ⟨by decide, by decide, by decide⟩

theorem settingsConform_otherRule : Schema.SettingsConform otherRuleConfig where
  daemon := ⟨by decide, by decide, by decide, by decide, by decide⟩
  probes := (Schema.conforms_default (F := ℚ)).settings.probes
  backends := nofun
  mapping := by
    intro rule hrule
    obtain rfl := List.mem_singleton.mp hrule
    exact ⟨by decide, by decide, by decide⟩

/-- A start with a rule and a backend, a reload with another rule, new backends, and a
reload of a text that is no configuration. -/
def someLabels : List RunningLabel :=
  [.reload (.ok otherRuleText), .putBackends oneBackendBody, .reload (.ok "window_ms =")]

set_option maxRecDepth 8000 in
/-- Everything active in that run conforms, and the last reload answers 409. -/
theorem parsed_configuration_active_some :
    ∃ trace final, Run (step someParsers) (launched oneRuleConfig) trace final ∧
      trace.map Prod.snd = someLabels ∧
      final.cells.mappingRules.value = otherRuleConfig.mapping ∧
      final.cells.oscBackends.value = [⟨"puredata", "127.0.0.1:57121"⟩] ∧
      ((∀ visit ∈ trace, visit.1.cells.SettingsConform) ∧ final.cells.SettingsConform) ∧
      (handleConfigReload (.ok "window_ms =") someParsers.fromStr final.cells).1.status = 409 := by
  have run : Run (step someParsers) (launched oneRuleConfig) _ _ := execute_sound someLabels rfl
  have hload : loadConfig someParsers (.ok oneRuleText) = some oneRuleConfig := rfl
  obtain ⟨_, hconform, hrejected⟩ := parsed_configuration_active hload run
  have hlast := hrejected _ (List.mem_cons_of_mem _ (List.mem_cons_of_mem _ List.mem_cons_self)) rfl
  refine ⟨_, _, run, rfl, rfl, rfl, hconform.mpr ⟨settingsConform_oneRule, ?_⟩, ?_⟩
  · intro visit hmem request haccepted
    simp only [List.mem_cons, List.not_mem_nil, or_false] at hmem
    rcases hmem with rfl | rfl | rfl
    · cases haccepted
      exact settingsConform_otherRule
    · cases haccepted
      intro backend hbackend
      obtain rfl := List.mem_singleton.mp hbackend
      exact (by decide : Schema.addressPattern "127.0.0.1:57121" = true)
    · cases haccepted
  · exact hlast.2 _ rfl

/-- The daemon starts with a window that the schema excludes, and clamps it. -/
theorem not_only_conforming :
    ¬ ∀ (parsers : Parsers ℚ) (content : Except String String) (config : Config ℚ)
        (trace : List (Running ℚ × RunningLabel)) (final : Running ℚ),
        loadConfig parsers content = some config →
          Run (step parsers) (launched config) trace final →
            (∀ visit ∈ trace, visit.1.cells.Conform) ∧ final.cells.Conform := by
  intro hclaim
  have hconform := (hclaim someParsers (.ok longWindowText) _ [] _ rfl .nil).2
  obtain ⟨_, hwindow, _⟩ := hconform.currentConfig.settings.daemon
  exact absurd hwindow (by decide)

end Running

end DaemonChoir.Conductor
