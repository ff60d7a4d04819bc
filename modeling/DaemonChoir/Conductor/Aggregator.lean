import DaemonChoir.Common.Events
import DaemonChoir.Common.Metrics
import DaemonChoir.Foundation.Series
import Mathlib.Data.List.Sort
set_option autoImplicit false

/-!
# Conductor: the aggregator (`conductor/src/aggregator.rs`)

The loop state and the computation of one window.  The two branches of `select!`
are `push` (an event was received) and `tick` (the interval fired); what a tick does
to cells and queues outside the loop belongs to the systems built on it.

`Aggregator.tick` is `compute_snapshot` with the end of the window that the loop adds to
it: the counter of empty windows, the six averages, the normalisation between literal
bounds, and the snapshot.  The counter is an `i32` that wraps, as in a release build, and
the sums are `u64` that wrap; the averages are over any `Float64`, so that a result about
them says which arithmetic it assumes.

The modules above this one look at the same loop from three sides.  `Windows` runs it over
a sequence of windows, with nothing around it.  `Ingest` puts the probes and the two
channels before it, and `Delivery` the engine and the dispatcher behind it.  `Tasks` has
all of them at once, and `TaskViews` says that the others are views of that one.
-/

namespace DaemonChoir.Conductor

open DaemonChoir.Common DaemonChoir.Foundation Float64

/-! ## Totals of one window -/

/-- The accumulators of the loop over `current_window_events`. -/
structure WindowTotals where
  cpuLatencies : List UInt64
  contextSwitches : UInt64
  pagesReclaimed : UInt64
  bytesTx : UInt64
  bytesRx : UInt64
  procExecs : UInt64
  deriving DecidableEq, Repr, Inhabited

namespace WindowTotals

/-- The accumulators before the loop. -/
def zero : WindowTotals := ⟨[], 0, 0, 0, 0, 0⟩

/-- One iteration of the loop; additions wrap as in a release build. -/
def add (totals : WindowTotals) (event : RawEvent) : WindowTotals :=
  match event.payload with
  | .cpuSched e =>
      { totals with
        cpuLatencies := totals.cpuLatencies ++ [e.latencyNs]
        contextSwitches := totals.contextSwitches + 1 }
  | .memPressure e =>
      { totals with pagesReclaimed := totals.pagesReclaimed + e.pagesReclaimed }
  | .netIo e =>
      { totals with
        bytesTx := totals.bytesTx + e.bytesTx
        bytesRx := totals.bytesRx + e.bytesRx }
  | .procLifecycle _ => { totals with procExecs := totals.procExecs + 1 }

/-- The loop. -/
def ofEvents (events : List RawEvent) : WindowTotals := events.foldl add zero

end WindowTotals

section Loop

variable {F : Type} [Float64 F]

/-- `raw_p95_latency`. -/
def rawP95Latency (cpuLatencies : List UInt64) : F :=
  if h : 0 < cpuLatencies.length then
    let sorted := cpuLatencies.insertionSort (· ≤ ·)
    let idx := toNat (floor (mul (ofNat cpuLatencies.length : F) (lit (95 / 100))))
    let idxClamped : Fin sorted.length := ⟨min idx (cpuLatencies.length - 1), by
      rw [List.length_insertionSort]
      omega⟩
    ofNat (sorted.get idxClamped).toNat
  else lit 0

/-! ## The loop state -/

/-- The local variables of `Aggregator::run`, with the configured window. -/
structure Aggregator (F : Type) where
  windowMs : UInt64
  currentWindowEvents : List RawEvent
  emaCpuLatency : F
  emaCpuRate : F
  emaMemPressure : F
  emaNetTx : F
  emaNetRx : F
  emaProcExec : F
  consecutiveEmptyWindows : Int32
  deriving DecidableEq, Repr, Inhabited

namespace Aggregator

/-- `window_ms.clamp(10, 500)`. -/
def clampWindow (windowMs : UInt64) : UInt64 :=
  if windowMs < 10 then 10 else if 500 < windowMs then 500 else windowMs

/-- `Aggregator::new`, and the variables of `run` before the loop. -/
def new (windowMs : UInt64) : Aggregator F where
  windowMs := clampWindow windowMs
  currentWindowEvents := []
  emaCpuLatency := lit 0
  emaCpuRate := lit 0
  emaMemPressure := lit 0
  emaNetTx := lit 0
  emaNetRx := lit 0
  emaProcExec := lit 0
  consecutiveEmptyWindows := 0

/-- `current_window_events.push(event)`. -/
def push (aggregator : Aggregator F) (event : RawEvent) : Aggregator F :=
  { aggregator with currentWindowEvents := aggregator.currentWindowEvents ++ [event] }

/-- `consecutive_empty_windows` after this window, wrapping as in a release build. -/
def countEmpty (aggregator : Aggregator F) : Int32 :=
  if aggregator.currentWindowEvents.isEmpty then aggregator.consecutiveEmptyWindows + 1
  else 0

/-- The six averages after this window. -/
def smooth (aggregator : Aggregator F) : Aggregator F :=
  let totals := WindowTotals.ofEvents aggregator.currentWindowEvents
  let alpha := lit (3 / 10)
  { aggregator with
    emaCpuLatency :=
      computeEma (rawP95Latency totals.cpuLatencies) aggregator.emaCpuLatency alpha
    emaCpuRate :=
      computeEma (ofNat totals.contextSwitches.toNat) aggregator.emaCpuRate alpha
    emaMemPressure :=
      computeEma (ofNat totals.pagesReclaimed.toNat) aggregator.emaMemPressure alpha
    emaNetTx := computeEma (ofNat totals.bytesTx.toNat) aggregator.emaNetTx alpha
    emaNetRx := computeEma (ofNat totals.bytesRx.toNat) aggregator.emaNetRx alpha
    emaProcExec := computeEma (ofNat totals.procExecs.toNat) aggregator.emaProcExec alpha }

/-- The normalised metrics of the current averages. -/
def metrics (aggregator : Aggregator F) : Option (MetricMap F) := do
  let normCpuLatency ← normalizeMinMax aggregator.emaCpuLatency (lit 1000) (lit 20000)
  let normCpuRate ← normalizeMinMax aggregator.emaCpuRate (lit 0) (lit 80)
  let normMemPressure ← normalizeMinMax aggregator.emaMemPressure (lit 0) (lit 500)
  let normNetTx ← normalizeMinMax aggregator.emaNetTx (lit 0) (lit 30000)
  let normNetRx ← normalizeMinMax aggregator.emaNetRx (lit 0) (lit 30000)
  let normProcExec ← normalizeMinMax aggregator.emaProcExec (lit 0) (lit 3)
  return {
    cpuSchedLatencyP95 := normCpuLatency
    cpuSchedContextRate := normCpuRate
    memReclaimPressure := normMemPressure
    netTxBytesNorm := normNetTx
    netRxBytesNorm := normNetRx
    procExecRate := normProcExec }

/-- The loop state after a tick that sent its snapshot. -/
def advance (aggregator : Aggregator F) : Aggregator F :=
  { aggregator.smooth with
    currentWindowEvents := []
    consecutiveEmptyWindows := aggregator.countEmpty }

/-- The interval branch: the next loop state and the snapshot; `none` is a panic.
`nowUs` is the clock reading and `lostEventsDelta` what the swap returned. -/
def tick (aggregator : Aggregator F) (nowUs lostEventsDelta : UInt64) :
    Option (Aggregator F × StateSnapshot F) := do
  let stale := decide (5 ≤ aggregator.countEmpty)
  let metrics ← aggregator.smooth.metrics
  return (aggregator.advance,
    { timestampUs := nowUs
      windowMs := aggregator.windowMs
      stale := stale
      lostEvents := lostEventsDelta
      metrics := metrics })

/-- Normalisation is between literal bounds, so it never panics. -/
theorem metrics_isSome (aggregator : Aggregator F) :
    ∃ metrics, aggregator.metrics = some metrics := by
  have hsome : ∀ (val : F) (low high : ℚ), low ≤ high →
      ∃ norm, normalizeMinMax val (lit low) (lit high) = some norm :=
    fun val _ _ h => Option.isSome_iff_exists.mp (normalizeMinMax_lit_isSome val h)
  obtain ⟨cpuLatency, h₁⟩ := hsome aggregator.emaCpuLatency 1000 20000 (by norm_num)
  obtain ⟨cpuRate, h₂⟩ := hsome aggregator.emaCpuRate 0 80 (by norm_num)
  obtain ⟨memPressure, h₃⟩ := hsome aggregator.emaMemPressure 0 500 (by norm_num)
  obtain ⟨netTx, h₄⟩ := hsome aggregator.emaNetTx 0 30000 (by norm_num)
  obtain ⟨netRx, h₅⟩ := hsome aggregator.emaNetRx 0 30000 (by norm_num)
  obtain ⟨procExec, h₆⟩ := hsome aggregator.emaProcExec 0 3 (by norm_num)
  exact ⟨_, by simp only [metrics, h₁, h₂, h₃, h₄, h₅, h₆]; rfl⟩

theorem tick_eq (aggregator : Aggregator F) (nowUs lostEventsDelta : UInt64) :
    ∃ metrics, aggregator.smooth.metrics = some metrics ∧
      aggregator.tick nowUs lostEventsDelta = some (aggregator.advance,
        { timestampUs := nowUs
          windowMs := aggregator.windowMs
          stale := decide (5 ≤ aggregator.countEmpty)
          lostEvents := lostEventsDelta
          metrics := metrics }) := by
  obtain ⟨metrics, hmetrics⟩ := aggregator.smooth.metrics_isSome
  exact ⟨metrics, hmetrics, by simp [tick, hmetrics]⟩

end Aggregator

end Loop

end DaemonChoir.Conductor
