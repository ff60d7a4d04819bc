import DaemonChoir.Foundation.Counters
import DaemonChoir.Conductor.Osc
import DaemonChoir.Conductor.ProbeLoading
set_option autoImplicit false

/-!
# Conductor: what one scrape shows (`conductor/src/control_api.rs`)

`handle_metrics` loads the counters one after the other, while dispatch loops and other
requests increment them one after the other.  Every load and every `fetch_add` is a
step, and each increment carries the number of the call that makes it; no step looks at
the numbers.

The threads are the dispatcher's frames, the timed requests and one scrape.  The state has
all counters of the page and, for the scrape, what it has loaded so far; a response is what
the loaded values say, once there are all of them.  `Foundation.Counters` speaks about such
threads in general, and `ScrapeCounts` says what its assumptions mean here.
-/

namespace DaemonChoir.Conductor

open DaemonChoir.Common DaemonChoir.Foundation

/-! ## The counters -/

/-- The fields of a `PrometheusHistogram`. -/
inductive HistogramCell where
  | sumUs
  | count
  | bucketLe5
  | bucketLe10
  | bucketLe20
  deriving DecidableEq, Repr, Inhabited

/-- `load` of a field. -/
def PrometheusHistogram.load (histogram : PrometheusHistogram) : HistogramCell → UInt64
  | .sumUs => histogram.sumUs
  | .count => histogram.count
  | .bucketLe5 => histogram.bucketLe5
  | .bucketLe10 => histogram.bucketLe10
  | .bucketLe20 => histogram.bucketLe20

/-- The field that a `fetch_add` of `observe` increments by one. -/
def HistogramAdd.tallied : HistogramAdd → Option HistogramCell
  | .sumUs _ => none
  | .count => some .count
  | .bucketLe5 => some .bucketLe5
  | .bucketLe10 => some .bucketLe10
  | .bucketLe20 => some .bucketLe20

theorem PrometheusHistogram.load_add (histogram : PrometheusHistogram) (add : HistogramAdd)
    {cell : HistogramCell} (hcell : cell ≠ .sumUs) :
    (histogram.add add).load cell =
      histogram.load cell + if add.tallied = some cell then 1 else 0 := by
  cases cell with
  | sumUs => exact absurd rfl hcell
  | _ => cases add <;> simp [PrometheusHistogram.add, load, HistogramAdd.tallied]

/-- The atomics that `handle_metrics` loads. -/
inductive Counter where
  | oscDispatchTotal
  | oscDispatchSuccessTotal
  | eventsLost (probe : ℕ)
  | dispatchLatency (cell : HistogramCell)
  | apiResponse (cell : HistogramCell)
  | probeLoadErrorsTotal
  deriving DecidableEq, Repr, Inhabited

/-- What `handle_metrics` reads of `AppState`. -/
structure AppMetrics where
  oscMetrics : OscMetrics
  probesStats : List ProbeStats
  dispatchLatencyHistogram : PrometheusHistogram
  apiResponseHistogram : PrometheusHistogram
  probeLoadErrorsTotal : UInt64
  deriving DecidableEq, Repr, Inhabited

/-- `load(Ordering::Relaxed)` of one atomic. -/
def AppMetrics.load (metrics : AppMetrics) : Counter → UInt64
  | .oscDispatchTotal => metrics.oscMetrics.oscDispatchTotal
  | .oscDispatchSuccessTotal => metrics.oscMetrics.oscDispatchSuccessTotal
  | .eventsLost probe => (metrics.probesStats[probe]?.map ProbeStats.eventsLost).getD 0
  | .dispatchLatency cell => metrics.dispatchLatencyHistogram.load cell
  | .apiResponse cell => metrics.apiResponseHistogram.load cell
  | .probeLoadErrorsTotal => metrics.probeLoadErrorsTotal

/-- The counters of `main`, after the probes were started. -/
def AppMetrics.new (probesStats : List ProbeStats) : AppMetrics where
  oscMetrics := ⟨0, 0⟩
  probesStats := probesStats
  dispatchLatencyHistogram := .default
  apiResponseHistogram := .default
  probeLoadErrorsTotal := Conductor.probeLoadErrorsTotal probesStats

/-! ## The response -/

/-- A line of the response: a comment or blank line, or a sample with its labels. -/
inductive MetricsLine (F : Type) where
  | text (line : String)
  | sample (family : String) (labels : List (String × String)) (value : UInt64)
  | sampleMs (family : String) (value : F)
  deriving DecidableEq, Repr, Inhabited

section Response

variable {F : Type} [Float64 F]

/-- The section of a histogram. -/
def histogramLines (family help : String) (value : HistogramCell → UInt64) :
    List (MetricsLine F) :=
  [.text ("# HELP " ++ family ++ " " ++ help),
    .text ("# TYPE " ++ family ++ " histogram"),
    .sample (family ++ "_bucket") [("le", "5")] (value .bucketLe5),
    .sample (family ++ "_bucket") [("le", "10")] (value .bucketLe10),
    .sample (family ++ "_bucket") [("le", "20")] (value .bucketLe20),
    .sample (family ++ "_bucket") [("le", "+Inf")] (value .count),
    .sampleMs (family ++ "_sum")
      (Float64.div (Float64.ofNat (value .sumUs).toNat) (Float64.lit 1000)),
    .sample (family ++ "_count") [] (value .count),
    .text ""]

/-- The section of the two counters of the dispatcher. -/
def dispatchLines (value : Counter → UInt64) : List (MetricsLine F) :=
  [.text "# HELP osc_dispatch_total Total OSC dispatches attempted",
    .text "# TYPE osc_dispatch_total counter",
    .sample "osc_dispatch_total" [("backend", "osc")] (value .oscDispatchTotal),
    .text "",
    .text "# HELP osc_dispatch_success_total Successful OSC dispatches",
    .text "# TYPE osc_dispatch_success_total counter",
    .sample "osc_dispatch_success_total" [("backend", "osc")]
      (value .oscDispatchSuccessTotal),
    .text ""]

/-- The section of the lost events, one sample for each probe. -/
def eventsLostLines (probesStats : List ProbeStats) (value : Counter → UInt64) :
    List (MetricsLine F) :=
  [.text "# HELP events_lost_total Ring buffer events lost due to overflow",
    .text "# TYPE events_lost_total counter"] ++
  (probesStats.zipIdx.map fun (probe, index) =>
    .sample "events_lost_total" [("probe", probe.name)] (value (.eventsLost index))) ++
  [.text ""]

/-- The section of the load errors. -/
def probeLoadErrorLines (value : Counter → UInt64) : List (MetricsLine F) :=
  [.text "# HELP probe_load_errors_total eBPF probe load failures",
    .text "# TYPE probe_load_errors_total counter",
    .sample "probe_load_errors_total" [] (value .probeLoadErrorsTotal)]

/-- The body of the response, from the loaded values. -/
def metricsBody (probesStats : List ProbeStats) (value : Counter → UInt64) :
    List (MetricsLine F) :=
  dispatchLines value ++ eventsLostLines probesStats value ++
    histogramLines "dispatch_latency_ms" "Ring buffer to OSC dispatch latency"
      (fun cell => value (.dispatchLatency cell)) ++
    histogramLines "api_response_ms" "Control API response latency"
      (fun cell => value (.apiResponse cell)) ++
    probeLoadErrorLines value

end Response

/-- The order in which a histogram is loaded. -/
def histogramLoads : List HistogramCell :=
  [.sumUs, .count, .bucketLe5, .bucketLe10, .bucketLe20]

/-- The loads of `handle_metrics` in order. -/
def metricsLoads (probes : ℕ) : List Counter :=
  [.oscDispatchTotal, .oscDispatchSuccessTotal] ++ (List.range probes).map .eventsLost ++
    histogramLoads.map .dispatchLatency ++ histogramLoads.map .apiResponse ++
    [.probeLoadErrorsTotal]

/-! ## The threads -/

/-- The thread and the place in it of a call that increments counters. -/
abbrev CallId := ℕ × ℕ

/-- An atomic operation. -/
inductive MetricsOp where
  /-- `osc_dispatch_total.fetch_add` -/
  | offer (call : CallId)
  /-- `osc_dispatch_success_total.fetch_add` -/
  | credit (call : CallId)
  /-- A `fetch_add` of `dispatch_latency_histogram.observe`. -/
  | dispatchLatency (call : CallId) (add : HistogramAdd)
  /-- A `fetch_add` of `api_response_histogram.observe`. -/
  | apiResponse (call : CallId) (add : HistogramAdd)
  /-- A `load` of `handle_metrics`. -/
  | load (counter : Counter)
  deriving DecidableEq, Repr, Inhabited

/-- The counters, and the local variables that `handle_metrics` has assigned. -/
structure Scrape where
  metrics : AppMetrics
  loaded : List (Counter × UInt64)
  deriving Repr, Inhabited

namespace Scrape

/-- The effect of an operation. -/
def perform (scrape : Scrape) : MetricsOp → Scrape
  | .offer _ =>
      { scrape with metrics.oscMetrics.oscDispatchTotal :=
          scrape.metrics.oscMetrics.oscDispatchTotal + 1 }
  | .credit _ =>
      { scrape with metrics.oscMetrics.oscDispatchSuccessTotal :=
          scrape.metrics.oscMetrics.oscDispatchSuccessTotal + 1 }
  | .dispatchLatency _ add =>
      { scrape with metrics.dispatchLatencyHistogram :=
          scrape.metrics.dispatchLatencyHistogram.add add }
  | .apiResponse _ add =>
      { scrape with metrics.apiResponseHistogram :=
          scrape.metrics.apiResponseHistogram.add add }
  | .load counter =>
      { scrape with loaded := (counter, scrape.metrics.load counter) :: scrape.loaded }

/-- The value of a local variable. -/
def local? (scrape : Scrape) (counter : Counter) : Option UInt64 :=
  scrape.loaded.lookup counter

/-- The response, once the last local variable is assigned. -/
def response? {F : Type} [Float64 F] (scrape : Scrape) : Option (List (MetricsLine F)) :=
  let probesStats := scrape.metrics.probesStats
  if (metricsLoads probesStats.length).all fun counter => (scrape.local? counter).isSome then
    some (metricsBody probesStats fun counter => (scrape.local? counter).getD 0)
  else none

end Scrape

section Tasks

variable {F : Type}

/-- A call that increments counters. -/
inductive MetricsCall (F : Type) where
  /-- One pass of the loop over the backends, with the outcome of `send_to`. -/
  | send (ok : Bool)
  /-- `dispatch_latency_histogram.observe(ms)` -/
  | dispatchLatency (ms : F)
  /-- `api_response_histogram.observe(ms)` -/
  | apiResponse (ms : F)

/-- One pass of the loop of `OscDispatcher::run`, as far as the counters see it. -/
structure DispatchFrame (F : Type) where
  outcomes : List Bool
  latency : Option F

/-- A thread that increments counters. -/
inductive MetricsTask (F : Type) where
  | observeDispatchLatency (ms : F)
  | observeApiResponse (ms : F)
  | dispatch (frames : List (DispatchFrame F))

/-- The calls of a pass, in order. -/
def DispatchFrame.calls (frame : DispatchFrame F) : List (MetricsCall F) :=
  frame.outcomes.map .send ++ (frame.latency.map .dispatchLatency).toList

/-- The calls of a thread, in order. -/
def MetricsTask.calls : MetricsTask F → List (MetricsCall F)
  | .observeDispatchLatency ms => [.dispatchLatency ms]
  | .observeApiResponse ms => [.apiResponse ms]
  | .dispatch frames => frames.flatMap DispatchFrame.calls

variable [Float64 F]

/-- The operations of a call, in order. -/
def MetricsCall.operations (number : CallId) : MetricsCall F → List MetricsOp
  | .send ok => .offer number :: if ok then [.credit number] else []
  | .dispatchLatency ms => (observe ms).map (.dispatchLatency number)
  | .apiResponse ms => (observe ms).map (.apiResponse number)

/-- The operations of a list of calls. -/
def numbered (thread : ℕ) (calls : List (MetricsCall F)) : List MetricsOp :=
  calls.zipIdx.flatMap fun (call, place) => call.operations (thread, place)

/-- `handle_metrics` inside `track_api_response_time`, which observes `responseMs`, among
other threads. -/
def Scrape.started (probesStats : List ProbeStats) (responseMs : F)
    (tasks : List (MetricsTask F)) : Threads Scrape MetricsOp where
  memory := { metrics := .new probesStats, loaded := [] }
  pending :=
    ((metricsLoads probesStats.length).map .load ++ numbered 0 [.apiResponse responseMs]) ::
      tasks.zipIdx.map fun (task, index) => numbered (index + 1) task.calls

end Tasks

end DaemonChoir.Conductor
