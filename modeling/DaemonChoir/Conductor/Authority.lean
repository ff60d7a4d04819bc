import DaemonChoir.Conductor.Server
set_option autoImplicit false

/-!
# Conductor: what requests can do to the daemon

Four requests have a power over the daemon, and two of them only with their header.  Whatever
else comes in, and however handlers and tasks are interleaved, the daemon goes on as if it had
not been asked.

Every operation that a script asks for is listed by `Uses`; an operation takes a power, and
a request has at most one, by its route, its method and its header.  No script asks for an
operation whose power its request does not have (`uses_serve`), and an operation without a
power leaves everything alone but the response times (`perform_untimed`).  The frames of
the operations then carry over whole runs: the cells change by reloads and updates only,
the database by its own tasks and by wipes, and `main` receives a shutdown only from a
request that had the header.
-/

namespace DaemonChoir.Conductor

open DaemonChoir.Common DaemonChoir.Foundation

/-! ## Powers -/

/-- What a request may change. -/
inductive Power where
  /-- The cells of the configuration. -/
  | configure
  /-- The content of the database. -/
  | wipe
  /-- Whether the daemon goes on. -/
  | stop
  deriving DecidableEq, Repr, Inhabited

/-- The power of a request, from its path, its method and its header. -/
def HttpRequest.power? (request : HttpRequest) : Option Power :=
  match Route.find? request.path, request.method with
  | some .configReload, .post => some .configure
  | some .configBackends, .put => some .configure
  | some .privacyWipe, .post => if request.guard = some "wipe" then some .wipe else none
  | some .shutdown, .post => if request.guard = some "shutdown" then some .stop else none
  | _, _ => none

/-- The power that an operation takes. -/
def ApiOp.power? {F : Type} : ApiOp F → Option Power
  | .write _ => some .configure
  | .wipe => some .wipe
  | .sendShutdown => some .stop
  | _ => none

/-- The operations that a request has the power for. -/
def HttpRequest.Allows {F : Type} (request : HttpRequest) (op : ApiOp F) : Prop :=
  op.power? = none ∨ op.power? = request.power?

/-- The operations of `track_api_response_time` itself. -/
def ApiOp.isTiming {F : Type} : ApiOp F → Bool
  | .elapsedMs | .observe _ => true
  | _ => false

/-- The operations that a handler may ask for. -/
def HttpRequest.Handles {F : Type} (request : HttpRequest) (op : ApiOp F) : Prop :=
  request.Allows op ∧ op.isTiming = false

section Uses

variable {F : Type} {request : HttpRequest}

theorem uses_plain (op : ApiOp F) (hplain : op.power? = none) (htiming : op.isTiming = false) :
    op.ask.Uses request.Handles :=
  Script.uses_perform ⟨.inl hplain, htiming⟩

theorem uses_power (op : ApiOp F) (hpower : request.power? = op.power?)
    (htiming : op.isTiming = false) : op.ask.Uses request.Handles :=
  Script.uses_perform ⟨.inr hpower.symm, htiming⟩

/-- Nobody needs a power to observe a response time. -/
theorem uses_observe (add : HistogramAdd) :
    (ApiOp.observe add).ask.Uses (request.Allows (F := F)) :=
  Script.uses_perform (.inl rfl)

theorem uses_performWrites (hpower : request.power? = some .configure)
    (writes : List (CellWrite F)) :
    (Api.performWrites writes).Uses request.Handles :=
  Script.uses_collect (fun write => uses_power (.write write) hpower rfl) writes

theorem uses_handleConfigReload (hpower : request.power? = some .configure) (api : Api F) :
    api.handleConfigReload.Uses request.Handles := by
  refine Script.uses_bind (uses_plain _ rfl rfl) fun content => ?_
  cases content with
  | error error => trivial
  | ok text =>
      dsimp only
      cases api.fromStr text with
      | error error => trivial
      | ok newCfg => exact Script.uses_bind (uses_performWrites hpower _) fun _ => trivial

theorem uses_handleConfigBackends (hpower : request.power? = some .configure) (api : Api F) :
    (api.handleConfigBackends request).Uses request.Handles := by
  unfold Api.handleConfigBackends
  cases api.extractBackends request with
  | error rejection => trivial
  | ok newBackends => exact Script.uses_bind (uses_performWrites hpower _) fun _ => trivial

theorem uses_handleShutdown
    (hpower : request.guard = some "shutdown" → request.power? = some .stop) :
    (Api.handleShutdown (F := F) request).Uses request.Handles := by
  unfold Api.handleShutdown
  split
  · rename_i hguard
    exact Script.uses_bind (uses_power _ (hpower hguard) rfl) fun _ => trivial
  · trivial

theorem uses_handlePrivacyWipe
    (hpower : request.guard = some "wipe" → request.power? = some .wipe) :
    (Api.handlePrivacyWipe (F := F) request).Uses request.Handles := by
  unfold Api.handlePrivacyWipe
  split
  · rename_i hguard
    refine Script.uses_bind (uses_power _ (hpower hguard) rfl) fun result => ?_
    cases result <;> trivial
  · trivial

theorem uses_handleProbes (api : Api F) : api.handleProbes.Uses request.Handles := by
  refine Script.uses_bind (Script.uses_collect (fun probe => ?_) _) fun _ => trivial
  exact Script.uses_bind (uses_plain _ rfl rfl) fun _ => Script.uses_bind (uses_plain _ rfl rfl) fun _ =>
    Script.uses_bind (uses_plain _ rfl rfl) fun _ => trivial

variable [Float64 F] [JsonFloat F] [Display F]

/-- A handler asks for nothing beyond the power of its request. -/
theorem uses_handler (api : Api F) {route : Route}
    (hroute : Route.find? request.path = some route) (hmethod : route.Accepts request.method) :
    (api.handler request route).Uses request.Handles := by
  cases route with
  | status =>
      exact Script.uses_bind (uses_plain _ rfl rfl) fun _ =>
        Script.uses_bind (uses_plain _ rfl rfl) fun _ => trivial
  | state => exact Script.uses_bind (uses_plain _ rfl rfl) fun _ => trivial
  | voices => exact Script.uses_bind (uses_plain _ rfl rfl) fun _ => trivial
  | probes => exact uses_handleProbes api
  | config => exact Script.uses_bind (uses_plain _ rfl rfl) fun _ => trivial
  | metrics =>
      exact Script.uses_bind (Script.uses_collect (fun counter => uses_plain (.load counter) rfl rfl) _)
        fun _ => trivial
  | configReload =>
      have hpost : request.method = .post := by simpa [Route.Accepts, Route.method] using hmethod
      exact uses_handleConfigReload (by simp [HttpRequest.power?, hroute, hpost]) api
  | configBackends =>
      have hput : request.method = .put := by simpa [Route.Accepts, Route.method] using hmethod
      exact uses_handleConfigBackends (by simp [HttpRequest.power?, hroute, hput]) api
  | shutdown =>
      have hpost : request.method = .post := by simpa [Route.Accepts, Route.method] using hmethod
      exact uses_handleShutdown fun hguard => by simp [HttpRequest.power?, hroute, hpost, hguard]
  | privacyWipe =>
      have hpost : request.method = .post := by simpa [Route.Accepts, Route.method] using hmethod
      exact uses_handlePrivacyWipe fun hguard => by
        simp [HttpRequest.power?, hroute, hpost, hguard]

omit [JsonFloat F] [Display F] in
theorem uses_trackApiResponseTime {handler : ApiScript F Response}
    (uses : handler.Uses request.Handles) :
    (Api.trackApiResponseTime handler).Uses request.Allows := by
  refine Script.uses_bind (uses.mono fun op handles => handles.1) fun _ => ?_
  refine Script.uses_bind (Script.uses_perform (.inl rfl)) fun elapsedMs => ?_
  exact Script.uses_bind
    (Script.uses_collect (fun add => uses_observe add) _)
    fun _ => trivial

theorem uses_serve (api : Api F) (request : HttpRequest) :
    (api.serve request).Uses request.Allows := by
  unfold Api.serve
  split
  · trivial
  · rename_i route hroute
    split
    · rename_i hmethod
      exact Script.uses_bind (uses_trackApiResponseTime (uses_handler api hroute hmethod))
        fun _ => trivial
    · split
      · exact uses_trackApiResponseTime trivial
      · trivial

end Uses

/-! ## What an operation leaves alone -/

section Frame

variable {F : Type} {state after : AppState F} {surroundings : Surroundings F}

/-- The state without the response times. -/
def AppState.untimed (state : AppState F) : AppState F :=
  { state with metrics.apiResponseHistogram := .default }

/-- All an operation can do to the state. -/
theorem perform_cases {op : ApiOp F} {answer : op.Answer}
    (h : state.perform op surroundings = some (answer, after)) :
    (∃ write, op = .write write ∧
      after = { state with cells := state.cells.perform write }) ∨
    (op = .wipe ∧ after = { state with
      db := (state.db.wipe surroundings.events surroundings.snapshots).2 }) ∨
    (op = .sendShutdown ∧ ∃ sent, after = { state with shutdownTx := sent }) ∨
    (∃ add, op = .observe add ∧ after = { state with
      metrics.apiResponseHistogram := state.metrics.apiResponseHistogram.add add }) ∨
    (op.power? = none ∧ after = state) := by
  cases op with
  | write write =>
      cases h
      exact .inl ⟨write, rfl, rfl⟩
  | wipe =>
      cases h
      exact .inr (.inl ⟨rfl, rfl⟩)
  | sendShutdown =>
      refine .inr (.inr (.inl ⟨rfl, ?_⟩))
      unfold AppState.perform at h
      dsimp only at h
      split at h
      · cases h
      · cases h
        exact ⟨_, rfl⟩
  | observe add =>
      cases h
      exact .inr (.inr (.inr (.inl ⟨add, rfl, rfl⟩)))
  | _ =>
      cases h
      exact .inr (.inr (.inr (.inr ⟨rfl, rfl⟩)))

theorem perform_cells {op : ApiOp F} {answer : op.Answer} (hop : op.power? ≠ some .configure)
    (h : state.perform op surroundings = some (answer, after)) : after.cells = state.cells := by
  rcases perform_cases h with ⟨write, rfl, _⟩ | ⟨_, rfl⟩ | ⟨_, _, rfl⟩ | ⟨_, _, rfl⟩ | ⟨_, rfl⟩
  · exact absurd rfl hop
  all_goals rfl

theorem perform_db {op : ApiOp F} {answer : op.Answer} (hop : op.power? ≠ some .wipe)
    (h : state.perform op surroundings = some (answer, after)) : after.db = state.db := by
  rcases perform_cases h with ⟨_, _, rfl⟩ | ⟨rfl, _⟩ | ⟨_, _, rfl⟩ | ⟨_, _, rfl⟩ | ⟨_, rfl⟩
  case inr.inl => exact absurd rfl hop
  all_goals rfl

theorem perform_shutdownTx {op : ApiOp F} {answer : op.Answer} (hop : op.power? ≠ some .stop)
    (h : state.perform op surroundings = some (answer, after)) :
    after.shutdownTx = state.shutdownTx := by
  rcases perform_cases h with ⟨_, _, rfl⟩ | ⟨_, rfl⟩ | ⟨rfl, _⟩ | ⟨_, _, rfl⟩ | ⟨_, rfl⟩
  case inr.inr.inl => exact absurd rfl hop
  all_goals rfl

theorem perform_untimed {op : ApiOp F} {answer : op.Answer} (hop : op.power? = none)
    (h : state.perform op surroundings = some (answer, after)) :
    after.untimed = state.untimed := by
  rcases perform_cases h with ⟨_, rfl, _⟩ | ⟨rfl, _⟩ | ⟨rfl, _⟩ | ⟨_, _, rfl⟩ | ⟨_, rfl⟩
  · cases hop
  · cases hop
  · cases hop
  · rfl
  · rfl

theorem task_untimed {move : TaskMove F} (h : state.task move = some after) :
    state.untimed.task move = some after.untimed := by
  cases move with
  | receiveShutdown =>
      unfold AppState.task at h ⊢
      dsimp only [AppState.untimed] at h ⊢
      split at h
      · cases h
        simp_all
      · cases h
  | _ =>
      cases h
      rfl

/-- The call of the database that a task makes. -/
def TaskMove.dbCall? : TaskMove F → Option (Call F)
  | .insertEvent event answer => some (.insertEvent event answer)
  | .insertSnapshot snapshot answer => some (.insertSnapshot snapshot answer)
  | .purgeOlderThan retention now events snapshots =>
      some (.purgeOlderThan retention now events snapshots)
  | _ => none

theorem task_frame {move : TaskMove F} (h : state.task move = some after) :
    after.cells = state.cells ∧
      after.db = (move.dbCall?.elim state.db fun call => state.db.after call) := by
  cases move with
  | receiveShutdown =>
      unfold AppState.task at h
      dsimp only at h
      split at h
      · cases h
        exact ⟨rfl, rfl⟩
      · cases h
  | _ =>
      cases h
      exact ⟨rfl, rfl⟩

end Frame

/-! ## Authority -/

section Authority

variable {F : Type}

/-- No request with the power has come in. -/
def Without (power : Power) (trace : List (Server F × ServerLabel F)) : Prop :=
  ∀ request ∈ Service.arrivals trace, request.power? ≠ some power

/-- The moves of the tasks, with the states they are taken in. -/
def taskTrace {τ : Type} (view : AppState F → τ) (trace : List (Server F × ServerLabel F)) :
    List (τ × TaskMove F) :=
  trace.filterMap fun visit =>
    (Service.task? visit.2).map fun move => (view visit.1.state, move)

/-- The moves of the tasks, in order. -/
def moves (trace : List (Server F × ServerLabel F)) : List (TaskMove F) :=
  trace.filterMap fun visit => Service.task? visit.2

/-- What the tasks do to the database, as far as they call it. -/
def taskDb (db : Database F) (move : TaskMove F) : Option (Database F) :=
  some (move.dbCall?.elim db fun call => db.after call)

theorem db_of_taskDb {start final : Database F} {trace : List (Database F × TaskMove F)}
    (run : Run taskDb start trace final) :
    final = ((trace.map Prod.snd).filterMap TaskMove.dbCall?).foldl Database.after start := by
  induction run with
  | nil => rfl
  | @snoc trace db after move run taken ih =>
      cases taken
      rw [List.map_append, List.filterMap_append, List.foldl_append, ← ih]
      cases hcall : move.dbCall? with
      | none => simp [hcall]
      | some call => simp [hcall]

/-- What the tasks do to the channel for the shutdown. -/
def taskShutdown (shutdownTx : Channel 1 Unit) : TaskMove F → Option (Channel 1 Unit)
  | .receiveShutdown =>
      match shutdownTx.recv with
      | .item () rest => some rest
      | _ => none
  | _ => some shutdownTx

theorem shutdownTx_of_task {state after : AppState F} {move : TaskMove F}
    (h : state.task move = some after) :
    taskShutdown state.shutdownTx move = some after.shutdownTx := by
  cases move with
  | receiveShutdown =>
      unfold AppState.task at h
      unfold taskShutdown
      cases hrecv : state.shutdownTx.recv with
      | item _ rest =>
          simp only [hrecv] at h ⊢
          rw [← Option.some.inj h]
      | pending =>
          simp only [hrecv] at h
          cases h
      | ended =>
          simp only [hrecv] at h
          cases h
  | _ =>
      cases h
      rfl

/-- From an empty channel nothing is ever received. -/
theorem not_received_of_empty {start final : Channel 1 Unit}
    {trace : List (Channel 1 Unit × TaskMove F)} (run : Run taskShutdown start trace final)
    (hempty : start.queue = []) :
    final.queue = [] ∧ ∀ visit ∈ trace, visit.2 ≠ .receiveShutdown := by
  induction run with
  | nil => exact ⟨hempty, by simp⟩
  | @snoc trace shutdownTx after move run taken ih =>
      obtain ⟨hqueue, hvisits⟩ := ih
      have hmove : move ≠ .receiveShutdown ∧ after = shutdownTx := by
        cases move with
        | receiveShutdown =>
            unfold taskShutdown at taken
            dsimp only at taken
            split at taken
            · rename_i rest hrecv
              rw [(Channel.recv_item hrecv).1] at hqueue
              cases hqueue
            · cases taken
        | _ =>
            cases taken
            exact ⟨by simp, rfl⟩
      obtain ⟨hmove, rfl⟩ := hmove
      refine ⟨hqueue, fun visit hmem => ?_⟩
      rcases List.mem_append.mp hmem with hmem | hmem
      · exact hvisits visit hmem
      · obtain rfl := List.mem_singleton.mp hmem
        exact hmove

variable [Float64 F] [JsonFloat F] [Display F] {api : Api F}

theorem uses_without {power : Power} {request : HttpRequest}
    (hpower : request.power? ≠ some power) :
    (api.serve request).Uses fun op => op.power? ≠ some power := by
  refine (uses_serve api request).mono fun op hallows => ?_
  rcases hallows with hplain | hsame
  · rw [hplain]
    exact Option.some_ne_none power |>.symm
  · rw [hsame]
    exact hpower

omit [Float64 F] [JsonFloat F] [Display F] in
theorem moves_taskTrace {τ : Type} (view : AppState F → τ)
    (trace : List (Server F × ServerLabel F)) :
    (taskTrace view trace).map Prod.snd = moves trace := by
  unfold taskTrace moves
  rw [List.map_filterMap]
  simp only [Option.map_map]
  exact congrArg (fun f => trace.filterMap f) (funext fun visit => by
    cases Service.task? visit.2 <;> rfl)

section Runs

variable {start final : Server F} {trace : List (Server F × ServerLabel F)}

theorem cells_of_without (run : Run (Server.step api) start trace final)
    (hstart : start.calls = []) (hwithout : Without .configure trace) :
    final.state.cells = start.state.cells := by
  have alone : Run (fun cells (_ : TaskMove F) => some cells) start.state.cells
      (taskTrace AppState.cells trace) final.state.cells :=
    Service.tasks_alone (fun hop h => perform_cells hop h) (fun h => by rw [(task_frame h).1])
      run hstart fun request hmem => uses_without (hwithout request hmem)
  exact alone.state_invariant (fun cells => cells = start.state.cells) rfl
    fun hsame taken => (Option.some.inj taken).symm.trans hsame

/-- Without a wipe under its header the database is what the insertions and the purges make of
it. -/
theorem db_of_without (run : Run (Server.step api) start trace final)
    (hstart : start.calls = []) (hwithout : Without .wipe trace) :
    final.state.db =
      ((moves trace).filterMap TaskMove.dbCall?).foldl Database.after start.state.db := by
  have alone : Run taskDb start.state.db (taskTrace AppState.db trace) final.state.db :=
    Service.tasks_alone (fun hop h => perform_db hop h)
      (fun h => by rw [taskDb, (task_frame h).2])
      run hstart fun request hmem => uses_without (hwithout request hmem)
  rw [db_of_taskDb alone, moves_taskTrace]

theorem stop_of_without (run : Run (Server.step api) start trace final)
    (hstart : start.calls = []) (hwithout : Without .stop trace)
    (hempty : start.state.shutdownTx.queue = []) : .receiveShutdown ∉ moves trace := by
  have alone : Run taskShutdown start.state.shutdownTx (taskTrace AppState.shutdownTx trace)
      final.state.shutdownTx :=
    Service.tasks_alone (fun hop h => perform_shutdownTx hop h) shutdownTx_of_task
      run hstart fun request hmem => uses_without (hwithout request hmem)
  rw [← moves_taskTrace AppState.shutdownTx]
  intro hmem
  obtain ⟨visit, hvisit, hreceive⟩ := List.mem_map.mp hmem
  exact (not_received_of_empty alone hempty).2 visit hvisit hreceive

/-- Without all powers the daemon moves as if there were no requests, but for the response
times. -/
theorem tasks_of_powerless (run : Run (Server.step api) start trace final)
    (hstart : start.calls = [])
    (hnone : ∀ request ∈ Service.arrivals trace, request.power? = none) :
    Run AppState.task start.state.untimed (taskTrace AppState.untimed trace)
      final.state.untimed := by
  have hplain : ∀ request ∈ Service.arrivals trace,
      (api.serve request).Uses fun op => op.power? = none := by
    intro request hmem
    refine (uses_serve api request).mono fun op hallows => ?_
    rcases hallows with hplain | hsame
    · exact hplain
    · exact hsame.trans (hnone request hmem)
  exact Service.tasks_alone (fun hop h => perform_untimed hop h) (fun h => task_untimed h)
    run hstart hplain

/-- However requests and tasks are interleaved: without a reload or an update the cells of the
configuration stay as they are; without a wipe under its header the database is what the
insertions and the purges make of it; without a shutdown under its header `main` receives
nothing; and without all four the daemon moves as if there were no requests, but for the response
times. -/
theorem authority (run : Run (Server.step api) start trace final) (hstart : start.calls = []) :
    (Without .configure trace → final.state.cells = start.state.cells) ∧
    (Without .wipe trace → final.state.db =
      ((moves trace).filterMap TaskMove.dbCall?).foldl Database.after start.state.db) ∧
    (Without .stop trace → start.state.shutdownTx.queue = [] →
      .receiveShutdown ∉ moves trace) ∧
    ((∀ request ∈ Service.arrivals trace, request.power? = none) →
      Run AppState.task start.state.untimed (taskTrace AppState.untimed trace)
        final.state.untimed) :=
  ⟨cells_of_without run hstart, db_of_without run hstart, stop_of_without run hstart,
    tasks_of_powerless run hstart⟩

end Runs

/-- A request to stop that comes from a web page: it cannot set the header. -/
def forgedShutdown : HttpRequest where
  method := .post
  path := "/v1/shutdown"
  headers := [("host", "127.0.0.1:9876"), ("origin", "http://localhost")]
  body := []

/-- A wipe under the header of the shutdown. -/
def misguardedWipe : HttpRequest where
  method := .post
  path := "/v1/privacy/wipe"
  headers := [("x-daemon-choir", "shutdown")]
  body := []

namespace Api

/-- An API without probes whose parser and extractor accept nothing. -/
def bare : Api ℚ where
  buildCommit := "unknown"
  probesStats := []
  fromStr _ := .error "no configuration"
  extractBackends _ := .error ⟨415, "Expected request with Content-Type: application/json"⟩
  wrongMethodTimed := true

end Api

/-- What a request finds that takes three milliseconds. -/
def threeMs : Surroundings ℚ where
  uptimeSecs := 60
  content := .error "no such file"
  events := none
  snapshots := none
  elapsedMs := 3

/-- The server of the default configuration, before the first request. -/
def Server.idle : Server ℚ where
  state :=
    { cells := .new .default
      currentSnapshot := .new (Tapped.initialSnapshot 50)
      metrics := .new []
      db := ⟨some .sqlite, ⟨[], []⟩⟩
      shutdownTx := .empty 1 Unit }
  calls := []

/-- Two requests without the right header, answered while the aggregator publishes: nothing
else has moved. -/
theorem authority_without_header : ∃ trace final,
    Run (Server.step Api.bare) Server.idle trace final ∧
      Service.arrivals trace = [forgedShutdown, misguardedWipe] ∧
      final.state.cells = Server.idle.state.cells ∧ final.state.db = Server.idle.state.db ∧
      .receiveShutdown ∉ moves trace ∧
      Run AppState.task Server.idle.state.untimed (taskTrace AppState.untimed trace)
        final.state.untimed := by
  have run : Run (Server.step Api.bare) Server.idle _ _ :=
    execute_sound [.call forgedShutdown, .call misguardedWipe, .advance 1 threeMs,
      .task (.publish (Tapped.initialSnapshot 50)), .advance 0 threeMs, .advance 1 threeMs] rfl
  obtain ⟨hcells, hdb, hstop, hall⟩ := authority run rfl
  have hpowers : ∀ request ∈ [forgedShutdown, misguardedWipe], request.power? = none := by
    intro request hmem
    rcases List.mem_pair.mp hmem with rfl | rfl
    · rfl
    · rfl
  have hwithout : ∀ power, ∀ request ∈ [forgedShutdown, misguardedWipe],
      request.power? ≠ some power := fun power request hmem =>
    Option.eq_none_iff_forall_ne_some.mp (hpowers request hmem) power
  exact ⟨_, _, run, rfl, hcells (hwithout _), hdb (hwithout _), hstop (hwithout _) rfl,
    hall hpowers⟩

end Authority

end DaemonChoir.Conductor
