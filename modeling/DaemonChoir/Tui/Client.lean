import DaemonChoir.Conductor.Baseline
import DaemonChoir.Conductor.Replies
import Mathlib.Tactic.Tauto
set_option autoImplicit false

/-!
# Tui: what the client makes of the answers (`daemon-choir-tui/src/main.rs`)

The client reads three answers into structures of its own.  They are those of the daemon
under other names, so what it shows is what the daemon has, up to what JSON does to an `f64`.
-/

namespace DaemonChoir.Tui

open DaemonChoir.Common DaemonChoir.Conductor DaemonChoir.Foundation

/-! ## The structures of the client -/

/-- `Status`. -/
structure Status where
  version : String
  buildCommit : String
  uptimeSecs : UInt64
  state : String
  probesLoaded : UInt64
  backendsActive : UInt64
  apiVersion : String
  deriving DecidableEq, Repr, Inhabited

/-- `Deserialize` for `Status`. -/
def Status.ofValue (json : Json) : Option Status := do
  let [version, commit, uptime, state, loaded, active, api] ← json.fields
    ["version", "build_commit", "uptime_secs", "state", "probes_loaded", "backends_active",
      "api_version"] | none
  return {
    version := ← version.string?
    buildCommit := ← commit.string?
    uptimeSecs := ← uptime.u64?
    state := ← state.string?
    probesLoaded := ← loaded.u64?
    backendsActive := ← active.u64?
    apiVersion := ← api.string? }

/-- `ProbeInfo`. -/
structure ProbeInfo where
  name : String
  attachPoint : String
  loaded : Bool
  eventsTotal : UInt64
  eventsLost : UInt64
  lastEventUs : UInt64
  deriving DecidableEq, Repr, Inhabited

/-- `Deserialize` for `ProbeInfo`. -/
def ProbeInfo.ofValue (json : Json) : Option ProbeInfo := do
  let [name, attach, loaded, total, lost, last] ← json.fields
    ["name", "attach_point", "loaded", "events_total", "events_lost", "last_event_us"] | none
  return {
    name := ← name.string?
    attachPoint := ← attach.string?
    loaded := ← loaded.bool?
    eventsTotal := ← total.u64?
    eventsLost := ← lost.u64?
    lastEventUs := ← last.u64? }

/-! ## Fetching -/

/-- `send`, `error_for_status` and `json`; a request that failed has no answer. -/
def fetch {α : Type} (read : Json → Option α) (answer : Option Response) : Option α :=
  match answer with
  | none => none
  | some response =>
      if 400 ≤ response.status ∧ response.status < 600 then none
      else (Json.ofText response.body).bind read

/-- The three requests of one turn of `run_dashboard`: what there is to draw, unless the
dashboard is left.  The snapshot is read into a structure with the fields of the daemon's. -/
def fetchDashboard {F : Type} [JsonFloat F] (status probes state : Option Response) :
    Option (Status × List ProbeInfo × StateSnapshot F) :=
  match fetch Status.ofValue status, fetch (Json.list? ProbeInfo.ofValue) probes,
    fetch StateSnapshot.ofValue state with
  | some status, some probes, some snapshot => some (status, probes, snapshot)
  | _, _, _ => none

theorem fetch_jsonResponse {α : Type} (read : Json → Option α) (value : Json) :
    fetch read (some (jsonResponse value)) = read value := by
  simp [fetch, jsonResponse, Json.ofText_toText]

/-! ## What the daemon has -/

/-- The status of the daemon as the client has it. -/
def shownStatus (status : StatusResponse) : Status where
  version := status.version
  buildCommit := status.buildCommit
  uptimeSecs := status.uptimeSecs
  state := status.state
  probesLoaded := status.probesLoaded
  backendsActive := status.backendsActive
  apiVersion := status.apiVersion

/-- A probe of the daemon as the client has it. -/
def shownProbe (probe : ProbeStats) : ProbeInfo where
  name := probe.name
  attachPoint := probe.attachPoint
  loaded := probe.loaded
  eventsTotal := probe.eventsTotal
  eventsLost := probe.eventsLost
  lastEventUs := probe.lastEventUs

theorem ofValue_status (status : StatusResponse) :
    Status.ofValue status.toValue = some (shownStatus status) := by
  have hnodup : StatusResponse.names.Nodup := by decide
  have hfields := Json.fields_zip hnodup
    [.string status.version, .string status.buildCommit, .ofNat status.uptimeSecs.toNat,
      .string status.state, .ofNat status.probesLoaded.toNat, .ofNat status.backendsActive.toNat,
      .string status.apiVersion] rfl
  rw [← StatusResponse.toValue] at hfields
  simp only [StatusResponse.names] at hfields
  simp [Status.ofValue, hfields, shownStatus]

theorem ofValue_probe (probe : ProbeStats) :
    ProbeInfo.ofValue probe.toValue = some (shownProbe probe) := by
  have hnodup : ProbeStats.names.Nodup := by decide
  have hfields := Json.fields_zip hnodup
    [.string probe.name, .string probe.attachPoint, .bool probe.loaded,
      .ofNat probe.eventsTotal.toNat, .ofNat probe.eventsLost.toNat,
      .ofNat probe.lastEventUs.toNat] rfl
  rw [← ProbeStats.toValue] at hfields
  simp only [ProbeStats.names] at hfields
  simp [ProbeInfo.ofValue, hfields, shownProbe]

theorem fetch_probes (probesStats : List ProbeStats) :
    fetch (Json.list? ProbeInfo.ofValue) (some (handleProbes probesStats)) =
      some (probesStats.map shownProbe) := by
  rw [handleProbes, fetch_jsonResponse, Json.list?_map ofValue_probe]
  induction probesStats with
  | nil => rfl
  | cons probe probes ih => simp [ih]

section Snapshot

variable {F : Type} [JsonFloat F]

theorem fetch_state (currentSnapshot : RwLock (StateSnapshot F)) :
    fetch StateSnapshot.ofValue (some (handleState currentSnapshot)) =
      currentSnapshot.read.bind StateSnapshot.reread := by
  unfold handleState
  cases hread : currentSnapshot.read with
  | none => rfl
  | some snapshot => simp [fetch_jsonResponse, StateSnapshot.ofValue_toValue]

/-- Metrics come through when all of them are finite numbers. -/
theorem reread_metrics_isSome_iff (metrics : MetricMap F) :
    metrics.reread.isSome = true ↔
      ∀ metric : Metric, (JsonFloat.write (metric.value metrics)).isSome = true := by
  simp only [← reread_isSome_iff]
  have hparts : metrics.reread.isSome = true ↔
      (reread metrics.cpuSchedLatencyP95).isSome = true ∧
        (reread metrics.cpuSchedContextRate).isSome = true ∧
        (reread metrics.memReclaimPressure).isSome = true ∧
        (reread metrics.netTxBytesNorm).isSome = true ∧
        (reread metrics.netRxBytesNorm).isSome = true ∧
        (reread metrics.procExecRate).isSome = true := by
    simp [MetricMap.reread, Option.isSome_bind, Option.any_eq_true_iff_get]
    tauto
  rw [hparts]
  constructor
  · rintro ⟨hlatency, hrate, hpressure, htx, hrx, hexec⟩ metric
    cases metric with
    | cpuSchedLatencyP95 => exact hlatency
    | cpuSchedContextRate => exact hrate
    | memReclaimPressure => exact hpressure
    | netTxBytesNorm => exact htx
    | netRxBytesNorm => exact hrx
    | procExecRate => exact hexec
  · intro hall
    exact ⟨hall .cpuSchedLatencyP95, hall .cpuSchedContextRate, hall .memReclaimPressure,
      hall .netTxBytesNorm, hall .netRxBytesNorm, hall .procExecRate⟩

/-- Whatever the strings and the counters of the daemon are, the dashboard has the status, the
probes and the snapshot of the daemon, with each metric as JSON leaves it; and it is left only
over a poisoned lock or a metric that is no finite number. -/
theorem dashboard_shows (buildCommit : String) (uptimeSecs : UInt64)
    (probesStats : List ProbeStats) (oscBackends : RwLock (List OscBackendConfig))
    (currentSnapshot : RwLock (StateSnapshot F)) :
    fetchDashboard (some (handleStatus buildCommit uptimeSecs probesStats oscBackends))
        (some (handleProbes probesStats)) (some (handleState currentSnapshot)) =
      ((currentSnapshot.read.bind StateSnapshot.reread).map fun snapshot =>
        (shownStatus (statusOf buildCommit uptimeSecs probesStats oscBackends),
          probesStats.map shownProbe, snapshot)) ∧
    ((currentSnapshot.read.bind StateSnapshot.reread).isSome = true ↔
      currentSnapshot.poisoned = false ∧ ∀ metric : Metric,
        (JsonFloat.write (metric.value currentSnapshot.value.metrics)).isSome = true) := by
  constructor
  · rw [fetchDashboard, handleStatus, fetch_jsonResponse, ofValue_status, fetch_probes,
      fetch_state]
    cases currentSnapshot.read.bind StateSnapshot.reread <;> rfl
  · rw [← reread_metrics_isSome_iff]
    cases hpoisoned : currentSnapshot.poisoned with
    | true => simp [RwLock.read, hpoisoned]
    | false => simp [RwLock.read, hpoisoned, StateSnapshot.reread]

end Snapshot

end DaemonChoir.Tui
