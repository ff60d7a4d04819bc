import DaemonChoir.Conductor.Authority
import Mathlib.Data.UInt
set_option autoImplicit false

/-!
# Conductor: the response times of the control API (`track_api_response_time`)

Every request to a route is timed once, whatever its handler answers, and the five counters of
the histogram are incremented one after the other while other requests do the same.  When all
requests are answered, the histogram is the one that the same times give one after the other.
-/

namespace DaemonChoir.Conductor

open DaemonChoir.Common DaemonChoir.Foundation

/-! ## Histograms as sums -/

/-- The field of a `fetch_add`. -/
def HistogramAdd.cell : HistogramAdd → HistogramCell
  | .sumUs _ => .sumUs
  | .count => .count
  | .bucketLe5 => .bucketLe5
  | .bucketLe10 => .bucketLe10
  | .bucketLe20 => .bucketLe20

/-- What it adds. -/
def HistogramAdd.value : HistogramAdd → UInt64
  | .sumUs us => us
  | _ => 1

/-- What a `fetch_add` adds to a field. -/
def HistogramAdd.amount (add : HistogramAdd) (cell : HistogramCell) : UInt64 :=
  if add.cell = cell then add.value else 0

theorem load_add_amount (histogram : PrometheusHistogram) (add : HistogramAdd)
    (cell : HistogramCell) :
    (histogram.add add).load cell = histogram.load cell + add.amount cell := by
  by_cases hcell : add.cell = cell
  · rw [HistogramAdd.amount, if_pos hcell, ← hcell]
    cases add <;> rfl
  · rw [HistogramAdd.amount, if_neg hcell, UInt64.add_zero]
    cases add <;> cases cell <;> first
      | rfl
      | exact absurd rfl hcell

theorem load_foldl (adds : List HistogramAdd) (histogram : PrometheusHistogram)
    (cell : HistogramCell) :
    (adds.foldl PrometheusHistogram.add histogram).load cell =
      histogram.load cell + (adds.map fun add => add.amount cell).sum := by
  induction adds generalizing histogram with
  | nil => simp
  | cons add adds ih =>
      rw [List.foldl_cons, ih, load_add_amount, List.map_cons, List.sum_cons, add_assoc]

theorem PrometheusHistogram.eq_of_load {left right : PrometheusHistogram}
    (h : ∀ cell, left.load cell = right.load cell) : left = right := by
  have hsum := h .sumUs
  have hcount := h .count
  have h5 := h .bucketLe5
  have h10 := h .bucketLe10
  have h20 := h .bucketLe20
  cases left
  cases right
  simp_all [PrometheusHistogram.load]

/-! ## The exchanges of one request -/

section Exchanges

variable {F : Type}

/-- An operation of the control API and its answer. -/
abbrev ApiExchange (F : Type) : Type := Script.Exchange (ApiOp.Answer (F := F))

/-- The response time that an exchange measures. -/
def measured? : ApiExchange F → Option F
  | ⟨.elapsedMs, elapsedMs⟩ => some elapsedMs
  | _ => none

/-- What an exchange adds to a field of the histogram. -/
def added (cell : HistogramCell) : ApiExchange F → UInt64
  | ⟨.observe add, _⟩ => add.amount cell
  | _ => 0

/-- The exchanges of a handler measure and add nothing. -/
theorem plain_of_handler {request : HttpRequest} {script left : ApiScript F Response}
    {exchanges : List (ApiExchange F)} (leads : script.Leads exchanges left)
    (uses : script.Uses request.Handles) :
    exchanges.filterMap measured? = [] ∧
      ∀ cell, (exchanges.map (added cell)).sum = 0 := by
  have hplain : ∀ exchange ∈ exchanges, exchange.1.isTiming = false := fun exchange hmem =>
    ((leads.uses uses).1 exchange hmem).2
  constructor
  · rw [List.filterMap_eq_nil_iff]
    intro exchange hmem
    have htiming := hplain exchange hmem
    obtain ⟨op, answer⟩ := exchange
    cases op with
    | elapsedMs => cases htiming
    | _ => rfl
  · intro cell
    apply List.sum_eq_zero
    intro amount hamount
    obtain ⟨exchange, hmem, rfl⟩ := List.mem_map.mp hamount
    have htiming := hplain exchange hmem
    obtain ⟨op, answer⟩ := exchange
    cases op with
    | observe add => cases htiming
    | _ => rfl

theorem exchanges_of_observe {adds : List HistogramAdd} {results : List Unit}
    {exchanges : List (ApiExchange F)}
    (leads : (Script.collect (fun add => (ApiOp.observe (F := F) add).ask) adds).Leads
      exchanges (.pure results)) :
    exchanges = adds.map fun add => ⟨.observe add, ()⟩ := by
  induction adds generalizing exchanges results with
  | nil => exact (Script.leads_pure_iff.mp leads).1
  | cons add adds ih =>
      obtain ⟨answer, front, back, rfl, hfront, hback⟩ := Script.leads_bind_iff.mp leads
      obtain ⟨later, middle, last, rfl, hmiddle, hlast⟩ := Script.leads_bind_iff.mp hback
      obtain ⟨rfl, _⟩ := Script.leads_pure_iff.mp hlast
      rw [Script.leads_perform_iff.mp hfront, ih hmiddle]
      simp

/-- What the exchanges of a request say about time: the response times it measures are the ones
that it adds to the histogram. -/
structure Timed [Float64 F] (exchanges : List (ApiExchange F)) (times : List F) : Prop where
  measured : exchanges.filterMap measured? = times
  added : ∀ cell, (exchanges.map (added cell)).sum =
    ((times.flatMap observe).map fun add => add.amount cell).sum

variable [Float64 F]

/-- A timed handler measures one response time. -/
theorem timed_of_track {request : HttpRequest} {handler : ApiScript F Response}
    (uses : handler.Uses request.Handles) {exchanges : List (ApiExchange F)}
    {response : Response}
    (leads : (Api.trackApiResponseTime handler).Leads exchanges (.pure response)) :
    ∃ elapsedMs, Timed exchanges [elapsedMs] := by
  obtain ⟨_, front, later, rfl, hfront, hlater⟩ := Script.leads_bind_iff.mp leads
  obtain ⟨elapsedMs, middle, observed, rfl, hmiddle, hobserved⟩ :=
    Script.leads_bind_iff.mp hlater
  obtain ⟨_, adds, last, rfl, hadds, hlast⟩ := Script.leads_bind_iff.mp hobserved
  obtain ⟨rfl, _⟩ := Script.leads_pure_iff.mp hlast
  obtain ⟨hmeasured, hadded⟩ := plain_of_handler hfront uses
  rw [Script.leads_perform_iff.mp hmiddle, exchanges_of_observe hadds]
  refine ⟨elapsedMs, ?_, fun cell => ?_⟩
  · have hobserve : ((observe elapsedMs).map fun add =>
        (⟨.observe add, ()⟩ : ApiExchange F)).filterMap measured? = [] := by
      rw [List.filterMap_map, List.filterMap_eq_nil_iff]
      exact fun _ _ => rfl
    rw [List.append_nil, List.filterMap_append, hmeasured, List.filterMap_append, hobserve]
    rfl
  · rw [List.append_nil, List.map_append, List.sum_append, hadded cell, zero_add,
      List.singleton_append, List.map_cons, List.sum_cons, List.map_map]
    have helapsed : added cell (⟨.elapsedMs, elapsedMs⟩ : ApiExchange F) = 0 := rfl
    rw [helapsed, zero_add, List.flatMap_singleton]
    rfl

variable [JsonFloat F] [Display F]

/-- Whether a request is timed: it has reached a route. -/
def Api.times (api : Api F) (request : HttpRequest) : Bool :=
  match Route.find? request.path with
  | none => false
  | some route => decide (route.Accepts request.method) || api.wrongMethodTimed

/-- A request measures one response time when it is timed, and none otherwise. -/
theorem timed_of_serve {api : Api F} {request : HttpRequest} {exchanges : List (ApiExchange F)}
    {response : Response}
    (leads : (api.serve request).Leads exchanges (.pure response)) :
    ∃ times, Timed exchanges times ∧ times.length = if api.times request then 1 else 0 := by
  unfold Api.serve at leads
  unfold Api.times
  cases hroute : Route.find? request.path with
  | none =>
      rw [hroute] at leads
      obtain ⟨rfl, _⟩ := Script.leads_pure_iff.mp leads
      exact ⟨[], ⟨rfl, fun _ => rfl⟩, rfl⟩
  | some route =>
      rw [hroute] at leads
      dsimp only at leads ⊢
      by_cases hmethod : route.Accepts request.method
      · rw [if_pos hmethod] at leads
        obtain ⟨_, front, back, rfl, hfront, hback⟩ := Script.leads_bind_iff.mp leads
        obtain ⟨rfl, _⟩ := Script.leads_pure_iff.mp hback
        obtain ⟨elapsedMs, htimed⟩ := timed_of_track (uses_handler api hroute hmethod) hfront
        exact ⟨[elapsedMs], by simpa using htimed, by simp [hmethod]⟩
      · rw [if_neg hmethod] at leads
        cases hwrong : api.wrongMethodTimed with
        | true =>
            rw [hwrong, if_pos rfl] at leads
            have hplain : (Script.pure ⟨405, ""⟩ : ApiScript F Response).Uses
                request.Handles := trivial
            obtain ⟨elapsedMs, htimed⟩ := timed_of_track hplain leads
            exact ⟨[elapsedMs], htimed, by simp⟩
        | false =>
            rw [hwrong, if_neg Bool.false_ne_true] at leads
            obtain ⟨rfl, _⟩ := Script.leads_pure_iff.mp leads
            exact ⟨[], ⟨rfl, fun _ => rfl⟩, by simp [hmethod]⟩

end Exchanges

/-! ## The histogram after a run -/

section Runs

variable {F : Type}

/-- The response times that a call has measured. -/
def timesOf (trace : List (Server F × ServerLabel F)) (index : ℕ) : List F :=
  (Service.history AppState.perform index trace).filterMap measured?

/-- The response times that the first so many calls have measured, call by call. -/
def responseTimes (calls : ℕ) (trace : List (Server F × ServerLabel F)) : List F :=
  (List.range calls).flatMap (timesOf trace)

theorem load_perform {state after : AppState F} {op : ApiOp F} {surroundings : Surroundings F}
    {answer : op.Answer} (h : state.perform op surroundings = some (answer, after))
    (cell : HistogramCell) :
    after.metrics.apiResponseHistogram.load cell =
      state.metrics.apiResponseHistogram.load cell + added cell ⟨op, answer⟩ := by
  by_cases hobserve : ∃ add, op = .observe add
  · obtain ⟨add, rfl⟩ := hobserve
    cases h
    exact load_add_amount _ _ _
  · have hzero : added cell ⟨op, answer⟩ = 0 := by
      cases op with
      | observe add => exact absurd ⟨add, rfl⟩ hobserve
      | _ => rfl
    rw [hzero, add_zero]
    rcases perform_cases h with ⟨_, _, rfl⟩ | ⟨_, rfl⟩ | ⟨_, _, rfl⟩ | ⟨add, rfl, _⟩ | ⟨_, rfl⟩
    case inr.inr.inr.inl => exact absurd ⟨add, rfl⟩ hobserve
    all_goals rfl

theorem load_task {state after : AppState F} {move : TaskMove F}
    (h : state.task move = some after) (cell : HistogramCell) :
    after.metrics.apiResponseHistogram.load cell =
      state.metrics.apiResponseHistogram.load cell := by
  cases move with
  | receiveShutdown =>
      unfold AppState.task at h
      dsimp only at h
      split at h
      · cases h
        rfl
      · cases h
  | _ =>
      cases h
      rfl

theorem sum_of_timed [Float64 F] {exchanges : ℕ → List (ApiExchange F)} {indices : List ℕ}
    (htimed : ∀ index ∈ indices, ∃ times, Timed (exchanges index) times)
    (cell : HistogramCell) :
    (indices.map fun index => ((exchanges index).map (added cell)).sum).sum =
      (((indices.flatMap fun index => (exchanges index).filterMap measured?).flatMap
        observe).map fun add => add.amount cell).sum := by
  induction indices with
  | nil => rfl
  | cons index indices ih =>
      obtain ⟨⟨times, hmeasured, hadded⟩, hlater⟩ := List.forall_mem_cons.mp htimed
      rw [List.map_cons, List.sum_cons, ih hlater, hadded cell, List.flatMap_cons,
        List.flatMap_append, List.map_append, List.sum_append, hmeasured]

variable [Float64 F] [JsonFloat F] [Display F] {api : Api F}

/-- When every request is answered, the histogram is what the response times give one after
the other, however the increments were interleaved, and each request that has reached a route
has been timed once and no other ever. -/
theorem response_times {start final : Server F} {trace : List (Server F × ServerLabel F)}
    (run : Run (Server.step api) start trace final) (hstart : start.calls = [])
    (hdone : ∀ call ∈ final.calls, ∃ response, call.2 = .pure response) :
    final.state.metrics.apiResponseHistogram =
      ((responseTimes final.calls.length trace).flatMap observe).foldl PrometheusHistogram.add
        start.state.metrics.apiResponseHistogram ∧
    ∀ index request, (Service.arrivals trace)[index]? = some request →
      (timesOf trace index).length = if api.times request then 1 else 0 := by
  -- what each call has exchanged
  have hcall : ∀ index (hindex : index < final.calls.length), ∃ times,
      Timed (Service.history AppState.perform index trace) times ∧
        times.length = if api.times final.calls[index].1 then 1 else 0 := by
    intro index hindex
    obtain ⟨response, hresponse⟩ := hdone _ (List.getElem_mem hindex)
    have hleads := (Service.leads_of_run run hstart).1 index final.calls[index].1
      final.calls[index].2 (List.getElem?_eq_getElem hindex)
    rw [hresponse] at hleads
    exact timed_of_serve hleads
  constructor
  · apply PrometheusHistogram.eq_of_load
    intro cell
    have htotal : final.state.metrics.apiResponseHistogram.load cell =
        start.state.metrics.apiResponseHistogram.load cell +
          ((List.range final.calls.length).map fun index =>
            ((Service.history AppState.perform index trace).map (added cell)).sum).sum :=
      Service.measure_of_run
        (fun state : AppState F => state.metrics.apiResponseHistogram.load cell) (added cell)
        run (fun h => load_perform h cell) (fun h => load_task h cell)
    rw [load_foldl, htotal, sum_of_timed]
    · rfl
    · intro index hmem
      obtain ⟨times, htimed, _⟩ := hcall index (List.mem_range.mp hmem)
      exact ⟨times, htimed⟩
  · intro index request harrived
    have hcalls := Service.calls_of_run run
    rw [hstart, List.map_nil, List.nil_append] at hcalls
    rw [← hcalls, List.getElem?_map] at harrived
    obtain ⟨call, hget, rfl⟩ := Option.map_eq_some_iff.mp harrived
    obtain ⟨hindex, rfl⟩ := List.getElem?_eq_some_iff.mp hget
    obtain ⟨times, htimed, hlength⟩ := hcall index hindex
    rw [timesOf, htimed.measured, hlength]

/-- A request that no route serves. -/
def unrouted : HttpRequest where
  method := .get
  path := "/v1/status/"
  headers := []
  body := []

/-- Two requests, of which the first has reached a route: it is the one that is timed. -/
theorem response_times_forged : ∃ trace final,
    Run (Server.step (Api.bare : Api ℚ)) Server.idle trace final ∧
      Service.arrivals trace = [forgedShutdown, unrouted] ∧
      final.state.metrics.apiResponseHistogram =
        ((responseTimes 2 trace).flatMap observe).foldl PrometheusHistogram.add .default ∧
      (timesOf trace 0).length = 1 ∧ (timesOf trace 1).length = 0 := by
  have run : Run (Server.step (Api.bare : Api ℚ)) Server.idle _ _ :=
    execute_sound [.call forgedShutdown, .call unrouted, .advance 0 threeMs, .advance 0 threeMs,
      .advance 0 threeMs, .advance 0 threeMs, .advance 0 threeMs, .advance 0 threeMs] rfl
  have hdone : ∀ call ∈ [(forgedShutdown, Script.pure Api.forbidden),
      (unrouted, (Script.pure ⟨404, ""⟩ : ApiScript ℚ Response))],
      ∃ response, call.2 = .pure response := by
    intro call hmem
    rcases List.mem_pair.mp hmem with rfl | rfl
    · exact ⟨_, rfl⟩
    · exact ⟨_, rfl⟩
  obtain ⟨hhistogram, htimes⟩ := response_times run rfl hdone
  exact ⟨_, _, run, rfl, hhistogram, htimes 0 forgedShutdown rfl, htimes 1 unrouted rfl⟩

end Runs

end DaemonChoir.Conductor
