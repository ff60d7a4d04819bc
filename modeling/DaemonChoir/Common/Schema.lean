import DaemonChoir.Common.Config
set_option autoImplicit false

/-!
# Common: the published schema (`docs/schema/daemon-choir.config.schema.json`)

What the schema asks of a configuration beyond the types of its fields.  Nothing in the
daemon reads this file.
-/

namespace DaemonChoir.Common.Schema

/-! ## The two patterns -/

/-- `[0-9]{1,most}`.  A digit never continues the pattern, so the longest run is taken. -/
def digits (most : Nat) (chars : List Char) : Option (List Char) :=
  let run := chars.takeWhile Char.isDigit
  if 1 ≤ run.length ∧ run.length ≤ most then some (chars.dropWhile Char.isDigit) else none

/-- One given character. -/
def literal (expected : Char) : List Char → Option (List Char)
  | [] => none
  | head :: rest => if head = expected then some rest else none

/-- `^[0-9]{1,3}\.[0-9]{1,3}\.[0-9]{1,3}\.[0-9]{1,3}:[0-9]{1,5}$` -/
def addressPattern (address : String) : Bool :=
  (digits 3 address.toList >>= literal '.' >>= digits 3 >>= literal '.' >>= digits 3 >>=
    literal '.' >>= digits 3 >>= literal ':' >>= digits 5) == some []

/-- `^/[a-zA-Z0-9_/]+$` -/
def oscAddressPattern (oscAddress : String) : Bool :=
  match oscAddress.toList with
  | '/' :: rest =>
      !rest.isEmpty && rest.all fun c => c.isAlphanum || c == '_' || c == '/'
  | _ => false

/-! ## The enumerations -/

/-- `log_level` -/
def logLevels : List String := ["trace", "debug", "info", "warn", "error"]

/-- `log_format` -/
def logFormats : List String := ["json", "pretty"]

/-- `probes.enabled` -/
def probeNames : List String := ["cpu_sched", "mem_pressure", "net_io", "proc_lifecycle"]

/-- `source_metric` -/
def sourceMetrics : List String :=
  ["cpu.sched.latency_p95", "cpu.sched.context_rate", "mem.reclaim.pressure",
    "net.tx.bytes_norm", "net.rx.bytes_norm", "proc.exec.rate"]

/-- `transform` -/
def transforms : List String := ["linear", "exponential", "logarithmic", "step"]

/-- `schema_version` -/
def schemaVersions : List String := ["1"]

/-! ## Conformance -/

/-- The object `daemon`.  The upper bound of the port is that of its type. -/
def DaemonConforms (daemon : DaemonConfig) : Prop :=
  10 ≤ daemon.windowMs ∧ daemon.windowMs ≤ 500 ∧ daemon.logLevel ∈ logLevels ∧
    daemon.logFormat ∈ logFormats ∧ 1024 ≤ daemon.controlApiPort

/-- An item of `backends.osc`. -/
def BackendConforms (backend : OscBackendConfig) : Prop :=
  addressPattern backend.address = true

/-- The array `backends.osc`. -/
def BackendsConform (backends : List OscBackendConfig) : Prop :=
  ∀ backend ∈ backends, BackendConforms backend

section Rules

variable {F : Type}

/-- An item of `mapping`.  That the ranges have two elements is their type. -/
def RuleConforms (rule : MappingRule F) : Prop :=
  rule.sourceMetric ∈ sourceMetrics ∧ oscAddressPattern rule.oscAddress = true ∧
    rule.transform ∈ transforms

/-- The array `mapping`. -/
def RulesConform (rules : List (MappingRule F)) : Prop :=
  ∀ rule ∈ rules, RuleConforms rule

/-- The configuration apart from its section `meta`. -/
structure SettingsConform (config : Config F) : Prop where
  daemon : DaemonConforms config.daemon
  probes : ∀ name ∈ config.probes.enabled, name ∈ probeNames
  backends : BackendsConform config.backends.osc
  mapping : RulesConform config.mapping

/-- The whole configuration. -/
structure Conforms (config : Config F) : Prop where
  settings : SettingsConform config
  schemaVersion : config.meta_.schemaVersion ∈ schemaVersions

theorem conforms_default : Conforms (Config.default : Config F) where
  settings :=
    { daemon := by
        show DaemonConforms DaemonConfig.default
        unfold DaemonConforms
        decide
      probes := by
        show ∀ name ∈ ProbesConfig.default.enabled, name ∈ probeNames
        decide
      backends := by
        intro backend hmem
        cases hmem
      mapping := by
        intro rule hmem
        cases hmem }
  schemaVersion := by
    show "1" ∈ schemaVersions
    decide

theorem settingsConform_withBackends {config : Config F} {osc : List OscBackendConfig}
    (h : SettingsConform config) (hosc : BackendsConform osc) :
    SettingsConform { config with backends := { config.backends with osc := osc } } :=
  ⟨h.daemon, h.probes, hosc, h.mapping⟩

end Rules

end DaemonChoir.Common.Schema
