import DaemonChoir.Conductor.Authority
set_option autoImplicit false

/-!
# Conductor: what a reply shows (`conductor/src/control_api.rs`)

A handler that takes one lock answers with what was behind it at one instant between the request
and the reply.  `handle_probes` and `handle_metrics` load many atomics: each number of their
replies is of one instant, all of them together need not be.
-/

namespace DaemonChoir.Conductor

open DaemonChoir.Common DaemonChoir.Foundation

/-! ## Genuine replies -/

section Replies

variable {F : Type} [Float64 F] [JsonFloat F] [Display F]

/-- The call has taken an operation in this state. -/
def Sees (index : ℕ) (trace : List (Server F × ServerLabel F)) (state : AppState F) : Prop :=
  ∃ server surroundings, (server, .advance index surroundings) ∈ trace ∧ server.state = state

/-- The call has taken an operation among these surroundings. -/
def Meets (index : ℕ) (trace : List (Server F × ServerLabel F))
    (surroundings : Surroundings F) : Prop :=
  ∃ server, (server, .advance index surroundings) ∈ trace

/-- A probe is shown under its own name, with numbers that its atomics had. -/
structure ShowsProbe (seen : AppState F → Prop) (probe : ProbeStats × ℕ) (shown : ProbeStats) :
    Prop where
  name : shown.name = probe.1.name
  attachPoint : shown.attachPoint = probe.1.attachPoint
  loaded : shown.loaded = probe.1.loaded
  numbers : ∀ cell, ∃ state, seen state ∧
    shown.load cell =
      (state.metrics.probesStats[probe.2]?.map fun stats => stats.load cell).getD 0

/-- A reply to `GET` shows states of the daemon, and the uptime that the clock gave. -/
def Genuine (api : Api F) (seen : AppState F → Prop) (met : Surroundings F → Prop)
    (response : Response) : Route → Prop
  | .status => ∃ surroundings state, met surroundings ∧ seen state ∧
      response = handleStatus api.buildCommit surroundings.uptimeSecs api.probesStats
        state.cells.oscBackends
  | .state => ∃ state, seen state ∧ response = handleState state.currentSnapshot
  | .voices => ∃ state, seen state ∧ response = handleVoices state.cells.mappingRules
  | .config => ∃ state, seen state ∧ response = handleConfig state.cells.currentConfig
  | .probes => ∃ shown, response = handleProbes shown ∧
      List.Forall₂ (ShowsProbe seen) api.probesStats.zipIdx shown
  | .metrics => ∃ value, response = ⟨200, metricsPage F api.probesStats value⟩ ∧
      ∀ counter ∈ metricsLoads api.probesStats.length, ∃ state, seen state ∧
        value counter = state.metrics.load counter
  | _ => True

end Replies

/-! ## What the handlers show -/

section Handlers

variable {F : Type} {seen : AppState F → Prop} {met : Surroundings F → Prop}

/-- Every exchange took place in a state that was seen, among surroundings that were met. -/
def Witnessed (seen : AppState F → Prop) (met : Surroundings F → Prop)
    (exchanges : List (Script.Exchange (ApiOp.Answer (F := F)))) : Prop :=
  ∀ exchange ∈ exchanges, ∃ state surroundings after, seen state ∧ met surroundings ∧
    state.perform exchange.1 surroundings = some (exchange.2, after)

theorem witness_of_ask {op : ApiOp F} {answer : op.Answer}
    {exchanges : List (Script.Exchange (ApiOp.Answer (F := F)))}
    (witnessed : Witnessed seen met exchanges)
    (leads : op.ask.Leads exchanges (.pure answer)) :
    ∃ state surroundings after, seen state ∧ met surroundings ∧
      state.perform op surroundings = some (answer, after) := by
  have hexchanges := Script.leads_perform_iff.mp leads
  exact witnessed ⟨op, answer⟩ (by rw [hexchanges]; exact List.mem_singleton_self _)

/-- The three numbers of a probe. -/
theorem showsProbe_of_leads {probe : ProbeStats × ℕ} {shown : ProbeStats}
    {exchanges : List (Script.Exchange (ApiOp.Answer (F := F)))}
    (witnessed : Witnessed seen met exchanges)
    (leads : (Api.loadProbe probe).Leads exchanges (.pure shown)) :
    ShowsProbe seen probe shown := by
  obtain ⟨eventsTotal, first, rest, rfl, hfirst, hrest⟩ := Script.leads_bind_iff.mp leads
  obtain ⟨eventsLost, second, rest, rfl, hsecond, hrest⟩ := Script.leads_bind_iff.mp hrest
  obtain ⟨lastEventUs, third, rest, rfl, hthird, hrest⟩ := Script.leads_bind_iff.mp hrest
  obtain ⟨_, hshown⟩ := Script.leads_pure_iff.mp hrest
  cases hshown
  obtain ⟨hwitnessFirst, hlater⟩ := List.forall_mem_append.mp witnessed
  obtain ⟨hwitnessSecond, hlater⟩ := List.forall_mem_append.mp hlater
  obtain ⟨hwitnessThird, _⟩ := List.forall_mem_append.mp hlater
  obtain ⟨stateTotal, _, _, htotal, _, hloadTotal⟩ := witness_of_ask hwitnessFirst hfirst
  obtain ⟨stateLost, _, _, hlost, _, hloadLost⟩ := witness_of_ask hwitnessSecond hsecond
  obtain ⟨stateLast, _, _, hlast, _, hloadLast⟩ := witness_of_ask hwitnessThird hthird
  cases hloadTotal
  cases hloadLost
  cases hloadLast
  refine ⟨rfl, rfl, rfl, fun cell => ?_⟩
  cases cell with
  | eventsTotal => exact ⟨stateTotal, htotal, rfl⟩
  | eventsLost => exact ⟨stateLost, hlost, rfl⟩
  | lastEventUs => exact ⟨stateLast, hlast, rfl⟩

theorem mem_of_lookup {pairs : List (Counter × UInt64)} {counter : Counter} {value : UInt64}
    (h : pairs.lookup counter = some value) : (counter, value) ∈ pairs := by
  obtain ⟨front, back, rfl, _⟩ := List.lookup_eq_some_iff.mp h
  exact List.mem_append_right _ List.mem_cons_self

theorem exists_lookup_zip {counters : List Counter} {values : List UInt64} {counter : Counter}
    (hlength : counters.length = values.length) (hmem : counter ∈ counters) :
    ∃ value, (counters.zip values).lookup counter = some value := by
  rw [← Option.ne_none_iff_exists']
  intro hnone
  have hfirst : counter ∈ (counters.zip values).map Prod.fst := by
    rwa [List.map_fst_zip (Nat.le_of_eq hlength)]
  obtain ⟨pair, hpair, rfl⟩ := List.mem_map.mp hfirst
  simpa using List.lookup_eq_none_iff.mp hnone pair hpair

variable [Float64 F] [JsonFloat F] [Display F]

/-- The handler of a `GET` route answers with what its exchanges show. -/
theorem genuine_of_handler {api : Api F} {request : HttpRequest} {route : Route}
    {exchanges : List (Script.Exchange (ApiOp.Answer (F := F)))} {response : Response}
    (witnessed : Witnessed seen met exchanges)
    (leads : (api.handler request route).Leads exchanges (.pure response)) :
    Genuine api seen met response route := by
  cases route with
  | status =>
      obtain ⟨uptimeSecs, first, rest, rfl, hfirst, hrest⟩ := Script.leads_bind_iff.mp leads
      obtain ⟨oscBackends, second, rest, rfl, hsecond, hrest⟩ := Script.leads_bind_iff.mp hrest
      obtain ⟨_, hresponse⟩ := Script.leads_pure_iff.mp hrest
      obtain ⟨hclock, hlater⟩ := List.forall_mem_append.mp witnessed
      obtain ⟨_, surroundings, _, _, hmet, huptime⟩ := witness_of_ask hclock hfirst
      obtain ⟨state, _, _, hseen, _, hread⟩ :=
        witness_of_ask (List.forall_mem_append.mp hlater).1 hsecond
      cases hresponse
      cases huptime
      cases hread
      exact ⟨surroundings, state, hmet, hseen, rfl⟩
  | state =>
      obtain ⟨currentSnapshot, first, rest, rfl, hfirst, hrest⟩ := Script.leads_bind_iff.mp leads
      obtain ⟨_, hresponse⟩ := Script.leads_pure_iff.mp hrest
      obtain ⟨state, _, _, hseen, _, hread⟩ :=
        witness_of_ask (List.forall_mem_append.mp witnessed).1 hfirst
      cases hresponse
      cases hread
      exact ⟨state, hseen, rfl⟩
  | voices =>
      obtain ⟨mappingRules, first, rest, rfl, hfirst, hrest⟩ := Script.leads_bind_iff.mp leads
      obtain ⟨_, hresponse⟩ := Script.leads_pure_iff.mp hrest
      obtain ⟨state, _, _, hseen, _, hread⟩ :=
        witness_of_ask (List.forall_mem_append.mp witnessed).1 hfirst
      cases hresponse
      cases hread
      exact ⟨state, hseen, rfl⟩
  | config =>
      obtain ⟨currentConfig, first, rest, rfl, hfirst, hrest⟩ := Script.leads_bind_iff.mp leads
      obtain ⟨_, hresponse⟩ := Script.leads_pure_iff.mp hrest
      obtain ⟨state, _, _, hseen, _, hread⟩ :=
        witness_of_ask (List.forall_mem_append.mp witnessed).1 hfirst
      cases hresponse
      cases hread
      exact ⟨state, hseen, rfl⟩
  | probes =>
      obtain ⟨shown, first, rest, rfl, hfirst, hrest⟩ := Script.leads_bind_iff.mp leads
      obtain ⟨_, hresponse⟩ := Script.leads_pure_iff.mp hrest
      cases hresponse
      refine ⟨shown, rfl, (Script.leads_collect hfirst).imp ?_⟩
      rintro probe result ⟨part, hsubset, hpart⟩
      have hwitness := (List.forall_mem_append.mp witnessed).1
      exact showsProbe_of_leads (fun exchange hmem => hwitness exchange (hsubset hmem)) hpart
  | metrics =>
      obtain ⟨values, first, rest, rfl, hfirst, hrest⟩ := Script.leads_bind_iff.mp leads
      obtain ⟨_, hresponse⟩ := Script.leads_pure_iff.mp hrest
      cases hresponse
      have hwitness := (List.forall_mem_append.mp witnessed).1
      obtain ⟨hlength, hloads⟩ := List.forall₂_iff_zip.mp (Script.leads_collect hfirst)
      refine ⟨_, rfl, fun counter hmem => ?_⟩
      obtain ⟨value, hvalue⟩ := exists_lookup_zip hlength hmem
      obtain ⟨part, hsubset, hpart⟩ := hloads (mem_of_lookup hvalue)
      obtain ⟨state, _, _, hseen, _, hload⟩ :=
        witness_of_ask (fun exchange hmem => hwitness exchange (hsubset hmem)) hpart
      cases hload
      exact ⟨state, hseen, by rw [hvalue, Option.getD_some]⟩
  | configReload => trivial
  | configBackends => trivial
  | shutdown => trivial
  | privacyWipe => trivial

end Handlers

/-! ## What the replies of a run show -/

section Runs

variable {F : Type} [Float64 F] [JsonFloat F] [Display F] {api : Api F}

/-- Behind the lock of the snapshot stands the first snapshot, or one that the aggregator has
published. -/
theorem snapshot_of_run {start final : Server F} {trace : List (Server F × ServerLabel F)}
    (run : Run (Server.step api) start trace final) :
    final.state.currentSnapshot.poisoned = start.state.currentSnapshot.poisoned ∧
      (final.state.currentSnapshot.value = start.state.currentSnapshot.value ∨
        .task (.publish final.state.currentSnapshot.value) ∈ trace.map Prod.snd) := by
  induction run with
  | nil => exact ⟨rfl, .inl rfl⟩
  | @snoc trace server after label run taken ih =>
      obtain ⟨hpoisoned, hvalue⟩ := ih
      have hkeep : after.state.currentSnapshot = server.state.currentSnapshot →
          after.state.currentSnapshot.poisoned = start.state.currentSnapshot.poisoned ∧
            (after.state.currentSnapshot.value = start.state.currentSnapshot.value ∨
              .task (.publish after.state.currentSnapshot.value) ∈
                (trace ++ [(server, label)]).map Prod.snd) := by
        intro hsame
        rw [hsame, List.map_append]
        exact ⟨hpoisoned, hvalue.imp_right (List.mem_append_left _)⟩
      rcases Service.step_cases taken with ⟨_, rfl, hstate, _⟩ | ⟨_, _, _, rfl, hexchange⟩ |
        ⟨move, rfl, htask, _⟩
      · exact hkeep (by rw [hstate])
      · obtain ⟨_, _, _, hperform, _⟩ := Service.exchange_cases hexchange
        apply hkeep
        rcases perform_cases hperform with ⟨_, _, hstate⟩ | ⟨_, hstate⟩ | ⟨_, _, hstate⟩ |
          ⟨_, _, hstate⟩ | ⟨_, hstate⟩
        all_goals rw [hstate]
      · cases move with
        | publish snapshot =>
            have hwrite := Option.some.inj htask
            rw [← hwrite]
            refine ⟨by simpa using hpoisoned, ?_⟩
            dsimp only
            cases hhealth : server.state.currentSnapshot.poisoned with
            | true =>
                have hsame : server.state.currentSnapshot.write (fun _ => snapshot) =
                    server.state.currentSnapshot := by simp [RwLock.write, hhealth]
                rw [hsame, List.map_append]
                exact hvalue.imp_right (List.mem_append_left _)
            | false =>
                rw [RwLock.write_value hhealth, List.map_append]
                exact .inr (List.mem_append_right _ (List.mem_singleton_self _))
        | receiveShutdown =>
            apply hkeep
            unfold AppState.task at htask
            dsimp only at htask
            split at htask
            · rw [← Option.some.inj htask]
            · cases htask
        | _ =>
            apply hkeep
            rw [← Option.some.inj htask]

omit [Float64 F] [Display F] in
theorem handleState_cases (currentSnapshot : RwLock (StateSnapshot F)) :
    (currentSnapshot.poisoned = false ∧
      handleState currentSnapshot = jsonResponse currentSnapshot.value.toValue) ∨
    (currentSnapshot.poisoned = true ∧
      handleState currentSnapshot = ⟨500, "Poisoned snapshot lock"⟩) := by
  unfold handleState RwLock.read
  cases currentSnapshot.poisoned with
  | true => exact .inr ⟨rfl, rfl⟩
  | false => exact .inl ⟨rfl, rfl⟩

/-- However requests and tasks are interleaved, the reply to a `GET` shows what was there while
the request was served; and a snapshot in a reply is the first one or was published. -/
theorem replies_genuine {start final : Server F} {trace : List (Server F × ServerLabel F)}
    (run : Run (Server.step api) start trace final) (hstart : start.calls = []) (index : ℕ)
    {request : HttpRequest} {route : Route} {response : Response}
    (hcall : final.calls[index]? = some (request, .pure response))
    (hroute : Route.find? request.path = some route) (hmethod : route.method = .get)
    (hget : request.method = .get) :
    Genuine api (Sees index trace) (Meets index trace) response route ∧
      (route = .state →
        (∃ snapshot, response = jsonResponse snapshot.toValue ∧
          (snapshot = start.state.currentSnapshot.value ∨
            .task (.publish snapshot) ∈ trace.map Prod.snd)) ∨
        (start.state.currentSnapshot.poisoned = true ∧
          response = ⟨500, "Poisoned snapshot lock"⟩)) := by
  have hleads := (Service.leads_of_run run hstart).1 index request _ hcall
  have hwitness : Witnessed (Sees index trace) (Meets index trace)
      (Service.history AppState.perform index trace) := by
    intro exchange hmem
    obtain ⟨server, surroundings, after, hvisit, hperform⟩ :=
      Service.exists_visit_of_mem_history hmem
    exact ⟨server.state, surroundings, after, ⟨server, surroundings, hvisit, rfl⟩,
      ⟨server, hvisit⟩, hperform⟩
  have hgenuine : Genuine api (Sees index trace) (Meets index trace) response route := by
    have haccepts : route.Accepts request.method := .inl (hget.trans hmethod.symm)
    unfold Api.serve at hleads
    rw [hroute] at hleads
    dsimp only at hleads
    rw [if_pos haccepts] at hleads
    obtain ⟨reply, front, last, hexchanges, htrack, hlast⟩ := Script.leads_bind_iff.mp hleads
    obtain ⟨_, hreply⟩ := Script.leads_pure_iff.mp hlast
    obtain ⟨answer, handled, timing, rfl, hhandled, htiming⟩ := Script.leads_bind_iff.mp htrack
    obtain ⟨_, _, rest, _, _, hrest⟩ := Script.leads_bind_iff.mp htiming
    obtain ⟨_, _, final, _, _, hfinal⟩ := Script.leads_bind_iff.mp hrest
    obtain ⟨_, hanswer⟩ := Script.leads_pure_iff.mp hfinal
    cases hanswer
    rw [hget] at hreply
    cases hreply
    rw [hexchanges] at hwitness
    have hfront := (List.forall_mem_append.mp hwitness).1
    exact genuine_of_handler (List.forall_mem_append.mp hfront).1 hhandled
  refine ⟨hgenuine, ?_⟩
  rintro rfl
  obtain ⟨_, ⟨server, surroundings, hvisit, rfl⟩, rfl⟩ := hgenuine
  obtain ⟨front, back, _, rfl, hbefore, _, _⟩ := run.of_mem hvisit
  obtain ⟨hpoisoned, hvalue⟩ := snapshot_of_run hbefore
  rcases handleState_cases server.state.currentSnapshot with ⟨_, hshown⟩ | ⟨hbad, hshown⟩
  · refine .inl ⟨_, hshown, hvalue.imp_right fun hmem => ?_⟩
    rw [List.map_append]
    exact List.mem_append_left _ hmem
  · exact .inr ⟨hpoisoned.symm.trans hbad, hshown⟩

/-- A request for the snapshot. -/
def stateRequest : HttpRequest where
  method := .get
  path := "/v1/state"
  headers := []
  body := []

/-- A snapshot is published between the request and the reply, and the reply shows it. -/
theorem replies_genuine_state : ∃ trace final response,
    Run (Server.step Api.bare) Server.idle trace final ∧
      final.calls[0]? = some (stateRequest, .pure response) ∧
      ∃ state, Sees 0 trace state ∧ response = handleState state.currentSnapshot := by
  have run : Run (Server.step Api.bare) Server.idle _ _ :=
    execute_sound [.call stateRequest, .task (.publish (Tapped.initialSnapshot 20)),
      .advance 0 threeMs, .advance 0 threeMs, .advance 0 threeMs, .advance 0 threeMs,
      .advance 0 threeMs, .advance 0 threeMs, .advance 0 threeMs] rfl
  have hroute : Route.find? stateRequest.path = some .state := rfl
  obtain ⟨genuine, _⟩ := replies_genuine run rfl 0 rfl hroute rfl rfl
  exact ⟨_, _, _, run, rfl, genuine⟩

end Runs

end DaemonChoir.Conductor
