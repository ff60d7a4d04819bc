import DaemonChoir.Foundation.Scripts
import DaemonChoir.Conductor.MetricsPage
import DaemonChoir.Conductor.Replies
import DaemonChoir.Conductor.Shutdown
set_option autoImplicit false

/-!
# Conductor: the control API as a service (`conductor/src/control_api.rs`)

Every request runs a handler of its own, and any number of them run beside the tasks of the
daemon.  A handler is a script of atomic operations: taking a lock, loading or incrementing one
atomic, one call of the database, one send.  A client that goes away is a call that takes no
further step.

`Foundation.Scripts` has the service: a state, the scripts of all calls, and the tasks that
move in between.  Here the operations are those of the handlers on `AppState`, an answer
carries what the operation has found, and a handler is the translation of its `async fn`.
The router adds what axum does before a handler runs: which route a path and a method
belong to, which body it accepts, and the middleware that times the request.

The tasks of the daemon appear as what they do to the shared state (`TaskMove`), in any
order and with any values, so that what holds of the service holds beside every run of the
tasks.  The lemmas at the end say that a handler which nothing comes between does what
`ControlApi` says of it.
-/

namespace DaemonChoir.Conductor

open DaemonChoir.Common DaemonChoir.Foundation

/-! ## Requests -/

/-- The methods that the routes name, and all others. -/
inductive Method where
  | get
  | head
  | post
  | put
  | other (name : String)
  deriving DecidableEq, Repr, Inhabited

/-- A request; the names of the headers are in lower case, as `HeaderName` keeps them, and the
bytes of a value are characters. -/
structure HttpRequest where
  method : Method
  path : String
  headers : List (String × String)
  body : List UInt8
  deriving DecidableEq, Repr, Inhabited

/-- `headers.get("X-Daemon-Choir")`: the first value under that name. -/
def HttpRequest.guard (request : HttpRequest) : Option String :=
  request.headers.lookup "x-daemon-choir"

/-! ## The state behind the handlers -/

/-- What the handlers and the tasks share of `AppState`. -/
structure AppState (F : Type) where
  cells : ConfigCells F
  currentSnapshot : RwLock (StateSnapshot F)
  metrics : AppMetrics
  db : Database F
  shutdownTx : Channel 1 Unit

/-- What is fixed when `create_router` is called: the commit and the probes, the TOML parser,
the extractor `Json<Vec<OscBackendConfig>>` with its rejections, and whether the middleware also
sees a request with a wrong method. -/
structure Api (F : Type) where
  buildCommit : String
  probesStats : List ProbeStats
  fromStr : String → Except String (Config F)
  extractBackends : HttpRequest → Except Response (List OscBackendConfig)
  wrongMethodTimed : Bool

/-- An atomic of a probe that `handle_probes` loads. -/
inductive ProbeCell where
  | eventsTotal
  | eventsLost
  | lastEventUs
  deriving DecidableEq, Repr, Inhabited

/-- `load` of an atomic of a probe. -/
def ProbeStats.load (probe : ProbeStats) : ProbeCell → UInt64
  | .eventsTotal => probe.eventsTotal
  | .eventsLost => probe.eventsLost
  | .lastEventUs => probe.lastEventUs

/-- `store` to an atomic of a probe. -/
def ProbeStats.store (probe : ProbeStats) (value : UInt64) : ProbeCell → ProbeStats
  | .eventsTotal => { probe with eventsTotal := value }
  | .eventsLost => { probe with eventsLost := value }
  | .lastEventUs => { probe with lastEventUs := value }

/-! ## The operations of the handlers -/

/-- An atomic operation of a handler. -/
inductive ApiOp (F : Type) where
  /-- `start_time.elapsed().as_secs()` -/
  | uptimeSecs
  | probe (index : ℕ) (cell : ProbeCell)
  | load (counter : Counter)
  /-- `current_snapshot.read()` -/
  | readSnapshot
  /-- `mapping_rules.read()` -/
  | readRules
  /-- `osc_backends.read()` -/
  | readBackends
  /-- `current_config.read()` -/
  | readConfig
  /-- `std::fs::read_to_string(&path)` -/
  | readConfigFile
  | write (write : CellWrite F)
  /-- `db.wipe()` -/
  | wipe
  /-- `shutdown_tx.send(()).await` -/
  | sendShutdown
  /-- `start.elapsed()` in milliseconds. -/
  | elapsedMs
  /-- A `fetch_add` of `api_response_histogram.observe`. -/
  | observe (add : HistogramAdd)
  deriving DecidableEq, Repr

/-- What an operation answers; a `read` shows the lock as it finds it. -/
@[reducible] def ApiOp.Answer {F : Type} : ApiOp F → Type
  | .uptimeSecs | .probe _ _ | .load _ => UInt64
  | .readSnapshot => RwLock (StateSnapshot F)
  | .readRules => RwLock (List (MappingRule F))
  | .readBackends => RwLock (List OscBackendConfig)
  | .readConfig => RwLock (Config F)
  | .readConfigFile => Except String String
  | .wipe => Except SqliteError Unit
  | .elapsedMs => F
  | .write _ | .sendShutdown | .observe _ => Unit

/-- What an operation finds outside the state: the clocks, the file and SQLite. -/
structure Surroundings (F : Type) where
  uptimeSecs : UInt64
  content : Except String String
  events : Answer
  snapshots : Answer
  elapsedMs : F

/-- What an operation answers and does; `none` while it has to wait. -/
def AppState.perform {F : Type} (state : AppState F) :
    (op : ApiOp F) → Surroundings F → Option (op.Answer × AppState F)
  | .uptimeSecs, surroundings => some (surroundings.uptimeSecs, state)
  | .probe index cell, _ =>
      some ((state.metrics.probesStats[index]?.map fun probe => probe.load cell).getD 0, state)
  | .load counter, _ => some (state.metrics.load counter, state)
  | .readSnapshot, _ => some (state.currentSnapshot, state)
  | .readRules, _ => some (state.cells.mappingRules, state)
  | .readBackends, _ => some (state.cells.oscBackends, state)
  | .readConfig, _ => some (state.cells.currentConfig, state)
  | .readConfigFile, surroundings => some (surroundings.content, state)
  | .write write, _ => some ((), { state with cells := state.cells.perform write })
  | .wipe, surroundings =>
      let (result, db) := state.db.wipe surroundings.events surroundings.snapshots
      some (result, { state with db := db })
  | .sendShutdown, _ =>
      match state.shutdownTx.trySend () with
      | (.full, _) => none
      | (_, after) => some ((), { state with shutdownTx := after })
  | .elapsedMs, surroundings => some (surroundings.elapsedMs, state)
  | .observe add, _ =>
      some ((), { state with metrics.apiResponseHistogram :=
        state.metrics.apiResponseHistogram.add add })

/-- A part of a handler. -/
abbrev ApiScript (F ρ : Type) : Type := Script (ApiOp F) ApiOp.Answer ρ

/-- A single operation. -/
abbrev ApiOp.ask {F : Type} (op : ApiOp F) : ApiScript F op.Answer := Script.perform op

/-! ## The handlers -/

namespace Api

section Handlers

variable {F : Type}

/-- `handle_status`. -/
def handleStatus (api : Api F) : ApiScript F Response := do
  let uptimeSecs ← ApiOp.uptimeSecs.ask
  let oscBackends ← ApiOp.readBackends.ask
  pure (Conductor.handleStatus api.buildCommit uptimeSecs api.probesStats oscBackends)

/-- The three loads of `handle_probes` for one probe. -/
def loadProbe (probe : ProbeStats × ℕ) : ApiScript F ProbeStats := do
  let eventsTotal ← (ApiOp.probe probe.2 .eventsTotal).ask
  let eventsLost ← (ApiOp.probe probe.2 .eventsLost).ask
  let lastEventUs ← (ApiOp.probe probe.2 .lastEventUs).ask
  pure { probe.1 with
    eventsTotal := eventsTotal, eventsLost := eventsLost, lastEventUs := lastEventUs }

/-- `handle_probes`. -/
def handleProbes (api : Api F) : ApiScript F Response := do
  let probes ← Script.collect loadProbe api.probesStats.zipIdx
  pure (Conductor.handleProbes probes)

/-- The writes of an update. -/
def performWrites (writes : List (CellWrite F)) : ApiScript F (List Unit) :=
  Script.collect (fun write => (ApiOp.write write).ask) writes

/-- `handle_config_reload`. -/
def handleConfigReload (api : Api F) : ApiScript F Response := do
  match ← ApiOp.readConfigFile.ask with
  | .error _ => pure ⟨409, "Failed to read config file from disk"⟩
  | .ok text =>
      match api.fromStr text with
      | .error error => pure ⟨409, "Config parse error: " ++ error⟩
      | .ok newCfg =>
          let _ ← performWrites (reloadWrites newCfg)
          pure ⟨202, "Config reloaded successfully"⟩

/-- `handle_config_backends`, behind its extractor. -/
def handleConfigBackends (api : Api F) (request : HttpRequest) : ApiScript F Response :=
  match api.extractBackends request with
  | .error rejection => pure rejection
  | .ok newBackends => do
      let _ ← performWrites (backendsWrites newBackends)
      pure ⟨200, "Backends updated successfully"⟩

/-- What both guarded handlers answer without their header. -/
def forbidden : Response := ⟨403, "Forbidden: Missing or invalid X-Daemon-Choir header"⟩

/-- `handle_shutdown`. -/
def handleShutdown (request : HttpRequest) : ApiScript F Response :=
  if request.guard = some "shutdown" then do
    let _ ← ApiOp.sendShutdown.ask
    pure ⟨202, "Shutdown requested"⟩
  else pure forbidden

/-- `handle_privacy_wipe`. -/
def handlePrivacyWipe (request : HttpRequest) : ApiScript F Response :=
  if request.guard = some "wipe" then do
    match ← ApiOp.wipe.ask with
    | .error _ => pure ⟨500, "Database wipe failed"⟩
    | .ok () => pure ⟨200, "Privacy wipe complete"⟩
  else pure forbidden

variable [JsonFloat F]

/-- `handle_state`. -/
def handleState : ApiScript F Response := do
  let currentSnapshot ← ApiOp.readSnapshot.ask
  pure (Conductor.handleState currentSnapshot)

/-- `handle_voices`. -/
def handleVoices : ApiScript F Response := do
  let mappingRules ← ApiOp.readRules.ask
  pure (Conductor.handleVoices mappingRules)

/-- `handle_config`. -/
def handleConfig : ApiScript F Response := do
  let currentConfig ← ApiOp.readConfig.ask
  pure (Conductor.handleConfig currentConfig)

variable [Float64 F] [Display F]

omit [JsonFloat F] in
/-- `handle_metrics`. -/
def handleMetrics (api : Api F) : ApiScript F Response := do
  let loads := metricsLoads api.probesStats.length
  let values ← Script.collect (fun counter => (ApiOp.load counter).ask) loads
  let value := fun counter => ((loads.zip values).lookup counter).getD 0
  pure ⟨200, metricsPage F api.probesStats value⟩

/-! ## The router -/

omit [JsonFloat F] [Display F] in
/-- `track_api_response_time` around a handler. -/
def trackApiResponseTime (handler : ApiScript F Response) : ApiScript F Response := do
  let response ← handler
  let elapsedMs ← ApiOp.elapsedMs.ask
  let _ ← Script.collect (fun add => (ApiOp.observe add).ask) (observe elapsedMs)
  pure response

end Handlers

end Api

/-- The routes of `create_router`. -/
inductive Route where
  | status
  | state
  | voices
  | probes
  | config
  | configReload
  | configBackends
  | metrics
  | shutdown
  | privacyWipe
  deriving DecidableEq, Repr, Inhabited

namespace Route

/-- The routes in source order. -/
def all : List Route :=
  [.status, .state, .voices, .probes, .config, .configReload, .configBackends, .metrics,
    .shutdown, .privacyWipe]

/-- The path of a route. -/
def path : Route → String
  | .status => "/v1/status"
  | .state => "/v1/state"
  | .voices => "/v1/voices"
  | .probes => "/v1/probes"
  | .config => "/v1/config"
  | .configReload => "/v1/config/reload"
  | .configBackends => "/v1/config/backends"
  | .metrics => "/v1/metrics"
  | .shutdown => "/v1/shutdown"
  | .privacyWipe => "/v1/privacy/wipe"

/-- The method it is registered for. -/
def method : Route → Method
  | .configReload | .shutdown | .privacyWipe => .post
  | .configBackends => .put
  | _ => .get

/-- The route of a path. -/
def find? (path : String) : Option Route := all.find? fun route => route.path = path

/-- A route registered for `GET` also serves `HEAD`. -/
def Accepts (route : Route) (method : Method) : Prop :=
  method = route.method ∨ (route.method = .get ∧ method = .head)

instance (route : Route) (method : Method) : Decidable (route.Accepts method) :=
  inferInstanceAs (Decidable (_ ∨ _))

end Route

namespace Api

section Router

variable {F : Type} [Float64 F] [JsonFloat F] [Display F]

/-- The handler of a route. -/
def handler (api : Api F) (request : HttpRequest) : Route → ApiScript F Response
  | .status => api.handleStatus
  | .state => handleState
  | .voices => handleVoices
  | .probes => api.handleProbes
  | .config => handleConfig
  | .configReload => api.handleConfigReload
  | .configBackends => api.handleConfigBackends request
  | .metrics => api.handleMetrics
  | .shutdown => handleShutdown request
  | .privacyWipe => handlePrivacyWipe request

/-- The answer to `HEAD` has no body. -/
def stripBody (method : Method) (response : Response) : Response :=
  if method = .head then { response with body := "" } else response

/-- What the router makes of a request. -/
def serve (api : Api F) (request : HttpRequest) : ApiScript F Response :=
  match Route.find? request.path with
  | none => pure ⟨404, ""⟩
  | some route =>
      if route.Accepts request.method then do
        let response ← trackApiResponseTime (api.handler request route)
        pure (stripBody request.method response)
      else if api.wrongMethodTimed then trackApiResponseTime (pure ⟨405, ""⟩)
      else pure ⟨405, ""⟩

end Router

end Api

/-! ## Handlers that run alone -/

section Alone

variable {F : Type}

theorem foldl_cells (writes : List (CellWrite F)) (state : AppState F) :
    writes.foldl (fun state write => { state with cells := state.cells.perform write }) state =
      { state with cells := writes.foldl ConfigCells.perform state.cells } := by
  induction writes generalizing state with
  | nil => rfl
  | cons write writes ih => rw [List.foldl_cons, ih, List.foldl_cons]

theorem performWrites_alone (surroundings : Surroundings F) (writes : List (CellWrite F))
    (state : AppState F) :
    (Api.performWrites writes).alone AppState.perform surroundings state =
      some (writes.map fun _ => (),
        { state with cells := writes.foldl ConfigCells.perform state.cells }) := by
  rw [← foldl_cells]
  apply Script.alone_collect_effect
  intro write state
  exact Script.alone_perform _ _

/-- A reload that nothing comes between. -/
theorem handleConfigReload_alone (api : Api F) (surroundings : Surroundings F)
    (state : AppState F) :
    api.handleConfigReload.alone AppState.perform surroundings state =
      some ((handleConfigReload surroundings.content api.fromStr state.cells).1,
        { state with
          cells := (handleConfigReload surroundings.content api.fromStr state.cells).2 }) := by
  have hread : (ApiOp.readConfigFile (F := F)).ask.alone AppState.perform surroundings state =
      some (surroundings.content, state) := Script.alone_perform _ _
  rw [Api.handleConfigReload, Script.bind_eq_bind, Script.alone_bind, hread, Option.bind_some]
  unfold handleConfigReload
  cases surroundings.content with
  | error error => rfl
  | ok text =>
      dsimp only
      cases api.fromStr text with
      | error error => rfl
      | ok newCfg =>
          dsimp only
          rw [Script.bind_eq_bind, Script.alone_bind, performWrites_alone]
          rfl

theorem handleConfigBackends_alone (api : Api F) {request : HttpRequest}
    {newBackends : List OscBackendConfig}
    (hbody : api.extractBackends request = .ok newBackends) (surroundings : Surroundings F)
    (state : AppState F) :
    (api.handleConfigBackends request).alone AppState.perform surroundings state =
      some ((handleConfigBackends newBackends state.cells).1,
        { state with cells := (handleConfigBackends newBackends state.cells).2 }) := by
  rw [Api.handleConfigBackends, hbody]
  dsimp only
  rw [Script.bind_eq_bind, Script.alone_bind, performWrites_alone]
  rfl

/-- A wipe that nothing comes between. -/
theorem handlePrivacyWipe_alone (request : HttpRequest) (surroundings : Surroundings F)
    (state : AppState F) :
    (Api.handlePrivacyWipe request).alone AppState.perform surroundings state =
      some ((handlePrivacyWipe request.guard surroundings.events surroundings.snapshots
          state.db).1,
        { state with db := (handlePrivacyWipe request.guard surroundings.events
          surroundings.snapshots state.db).2 }) := by
  unfold Api.handlePrivacyWipe handlePrivacyWipe
  split
  · rename_i hguard
    have hwipe : (ApiOp.wipe (F := F)).ask.alone AppState.perform surroundings state =
        some ((state.db.wipe surroundings.events surroundings.snapshots).1,
          { state with
            db := (state.db.wipe surroundings.events surroundings.snapshots).2 }) :=
      Script.alone_perform _ _
    rw [hguard, Script.bind_eq_bind, Script.alone_bind, hwipe, Option.bind_some]
    dsimp only
    rcases state.db.wipe surroundings.events surroundings.snapshots with ⟨result, db⟩
    cases result with
    | error error => rfl
    | ok done => rfl
  · rename_i hguard
    split
    · rename_i hother
      exact absurd hother hguard
    · rfl

/-- A request for the shutdown that nothing comes between. -/
theorem handleShutdown_alone (request : HttpRequest) (surroundings : Surroundings F)
    (state : AppState F) :
    (Api.handleShutdown request).alone AppState.perform surroundings state =
      (handleShutdown request.guard state.shutdownTx).map fun (response, after) =>
        (response, { state with shutdownTx := after }) := by
  unfold Api.handleShutdown handleShutdown
  split
  · rename_i hguard
    rw [hguard, Script.bind_eq_bind, Script.alone_bind, Script.alone_perform, AppState.perform]
    dsimp only
    rcases state.shutdownTx.trySend () with ⟨answer, after⟩
    cases answer with
    | full => rfl
    | ok => rfl
    | closed => rfl
  · rename_i hguard
    split
    · rename_i hother
      exact absurd hother hguard
    · rfl

end Alone

/-! ## The tasks beside the handlers -/

/-- What a task of the daemon does to the shared state. -/
inductive TaskMove (F : Type) where
  /-- The aggregator writes `current_snapshot`. -/
  | publish (snapshot : StateSnapshot F)
  /-- A probe writes to one of its atomics. -/
  | probe (index : ℕ) (cell : ProbeCell) (value : UInt64)
  /-- The dispatcher offers a bundle to a backend. -/
  | offer
  /-- The backend has taken it. -/
  | credit
  /-- A `fetch_add` of `dispatch_latency_histogram.observe`. -/
  | dispatchLatency (add : HistogramAdd)
  | insertEvent (event : RawEvent) (answer : Answer)
  | insertSnapshot (snapshot : StateSnapshot F) (answer : Answer)
  | purgeOlderThan (retention : Duration) (now : SystemTime) (events snapshots : Answer)
  /-- `shutdown_rx.recv()` in `main`. -/
  | receiveShutdown

/-- The effect of a task; `none` while it has to wait. -/
def AppState.task {F : Type} (state : AppState F) : TaskMove F → Option (AppState F)
  | .publish snapshot =>
      some { state with currentSnapshot := state.currentSnapshot.write fun _ => snapshot }
  | .probe index cell value =>
      some { state with metrics.probesStats :=
        state.metrics.probesStats.modify index fun probe => probe.store value cell }
  | .offer =>
      some { state with metrics.oscMetrics.oscDispatchTotal :=
        state.metrics.oscMetrics.oscDispatchTotal + 1 }
  | .credit =>
      some { state with metrics.oscMetrics.oscDispatchSuccessTotal :=
        state.metrics.oscMetrics.oscDispatchSuccessTotal + 1 }
  | .dispatchLatency add =>
      some { state with metrics.dispatchLatencyHistogram :=
        state.metrics.dispatchLatencyHistogram.add add }
  | .insertEvent event answer => some { state with db := state.db.insertEvent event answer }
  | .insertSnapshot snapshot answer =>
      some { state with db := state.db.insertSnapshot snapshot answer }
  | .purgeOlderThan retention now events snapshots =>
      some { state with db := state.db.purgeOlderThan retention now events snapshots }
  | .receiveShutdown =>
      match state.shutdownTx.recv with
      | .item () rest => some { state with shutdownTx := rest }
      | _ => none

/-- The control API while the daemon runs. -/
abbrev Server (F : Type) : Type := Service (AppState F) HttpRequest (ApiOp F) ApiOp.Answer Response

/-- What happens next at the server. -/
abbrev ServerLabel (F : Type) : Type := ServiceLabel HttpRequest (Surroundings F) (TaskMove F)

/-- One step of the server. -/
def Server.step {F : Type} [Float64 F] [JsonFloat F] [Display F] (api : Api F)
    (server : Server F) (label : ServerLabel F) : Option (Server F) :=
  Service.step AppState.perform AppState.task api.serve server label

/-! ## Rational numbers as JSON -/

/-- The number that digits stand for. -/
def digitsValue (digits : List Char) : ℕ :=
  digits.foldl (fun value digit => 10 * value + (digit.toNat - 48)) 0

/-- The power of ten that an exponent stands for. -/
def exponentValue : List Char → ℚ
  | _ :: '-' :: digits => ((10 : ℚ) ^ digitsValue digits)⁻¹
  | _ :: '+' :: digits => 10 ^ digitsValue digits
  | _ :: digits => 10 ^ digitsValue digits
  | [] => 1

/-- The value of a literal without its sign. -/
def unsignedValue (chars : List Char) : ℚ :=
  let whole := chars.takeWhile Char.isDigit
  match chars.dropWhile Char.isDigit with
  | '.' :: rest =>
      let fraction := rest.takeWhile Char.isDigit
      (digitsValue (whole ++ fraction) / 10 ^ fraction.length) *
        exponentValue (rest.dropWhile Char.isDigit)
  | rest => digitsValue whole * exponentValue rest

/-- The value of a literal. -/
def literalValue (literal : NumberLiteral) : ℚ :=
  match literal.chars with
  | '-' :: rest => - unsignedValue rest
  | chars => unsignedValue chars

/-- Rational numbers are written as far as thousandths go, and read exactly. -/
instance : JsonFloat ℚ where
  write q :=
    let chars := displayThousandths ⌊|q| * 1000⌋.toNat
    let signed := if q < 0 then '-' :: chars else chars
    if valid : JsonText.isNumber signed = true then some ⟨signed, valid⟩ else none
  read literal := some (literalValue literal)
  exists_read _ := ⟨_, rfl⟩

end DaemonChoir.Conductor
