import DaemonChoir.Common.Serde
import DaemonChoir.Conductor.ControlApi
import DaemonChoir.Conductor.ProbeLoading
set_option autoImplicit false

/-!
# Conductor: the handlers that only read (`conductor/src/control_api.rs`)

Each of them takes at most one lock and answers with the JSON text of what it has read.  A
poisoned lock is answered with an error, but for the number of backends, which is then zero.
-/

namespace DaemonChoir.Conductor

open DaemonChoir.Common DaemonChoir.Foundation

/-- `Json(value).into_response()` -/
def jsonResponse (value : Json) : Response := ⟨200, value.toText⟩

/-! ## Status -/

/-- `StatusResponse`; a `usize` has 64 bits. -/
structure StatusResponse where
  version : String
  buildCommit : String
  uptimeSecs : UInt64
  state : String
  probesLoaded : UInt64
  backendsActive : UInt64
  apiVersion : String
  deriving DecidableEq, Repr, Inhabited

/-- The names of the fields of `StatusResponse`. -/
def StatusResponse.names : List String :=
  ["version", "build_commit", "uptime_secs", "state", "probes_loaded", "backends_active",
    "api_version"]

/-- `Serialize` for `StatusResponse`. -/
def StatusResponse.toValue (status : StatusResponse) : Json :=
  .object (names.zip
    [.string status.version, .string status.buildCommit, .ofNat status.uptimeSecs.toNat,
      .string status.state, .ofNat status.probesLoaded.toNat, .ofNat status.backendsActive.toNat,
      .string status.apiVersion])

/-- What `handle_status` answers; the commit was fixed at build time, and the uptime comes from
the clock. -/
def statusOf (buildCommit : String) (uptimeSecs : UInt64) (probesStats : List ProbeStats)
    (oscBackends : RwLock (List OscBackendConfig)) : StatusResponse where
  version := "2.0.0"
  buildCommit := buildCommit
  uptimeSecs := uptimeSecs
  state := lifecycleState probesStats
  probesLoaded := UInt64.ofNat (probesStats.countP fun probe => probe.loaded)
  backendsActive :=
    match oscBackends.read with
    | some backends => UInt64.ofNat backends.length
    | none => 0
  apiVersion := "v1"

/-- `handle_status`. -/
def handleStatus (buildCommit : String) (uptimeSecs : UInt64) (probesStats : List ProbeStats)
    (oscBackends : RwLock (List OscBackendConfig)) : Response :=
  jsonResponse (statusOf buildCommit uptimeSecs probesStats oscBackends).toValue

/-! ## Probes -/

/-- The names of the fields of `ProbeInfoResponse`. -/
def ProbeStats.names : List String :=
  ["name", "attach_point", "loaded", "events_total", "events_lost", "last_event_us"]

/-- `Serialize` for the `ProbeInfoResponse` of a probe. -/
def ProbeStats.toValue (probe : ProbeStats) : Json :=
  .object (names.zip
    [.string probe.name, .string probe.attachPoint, .bool probe.loaded,
      .ofNat probe.eventsTotal.toNat, .ofNat probe.eventsLost.toNat,
      .ofNat probe.lastEventUs.toNat])

/-- `handle_probes`. -/
def handleProbes (probesStats : List ProbeStats) : Response :=
  jsonResponse (.array (probesStats.map ProbeStats.toValue))

/-! ## Snapshot, voices and configuration -/

section Cells

variable {F : Type} [JsonFloat F]

/-- `handle_state`. -/
def handleState (currentSnapshot : RwLock (StateSnapshot F)) : Response :=
  match currentSnapshot.read with
  | some snapshot => jsonResponse snapshot.toValue
  | none => ⟨500, "Poisoned snapshot lock"⟩

/-- `Serialize` for the `VoiceMapping` of a rule. -/
def voiceToValue (rule : MappingRule F) : Json :=
  .object
    [("source_metric", .string rule.sourceMetric), ("osc_address", .string rule.oscAddress),
      ("transform", .string rule.transform)]

/-- `handle_voices`. -/
def handleVoices (mappingRules : RwLock (List (MappingRule F))) : Response :=
  match mappingRules.read with
  | some rules => jsonResponse (.object [("voices", .array (rules.map voiceToValue))])
  | none => ⟨500, "Poisoned rules lock"⟩

/-- `handle_config`. -/
def handleConfig (currentConfig : RwLock (Config F)) : Response :=
  match currentConfig.read with
  | some config => jsonResponse config.toValue
  | none => ⟨500, "Poisoned config lock"⟩

end Cells

end DaemonChoir.Conductor
