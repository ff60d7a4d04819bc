import DaemonChoir.Conductor.Baseline
import DaemonChoir.Foundation.OrderStatistic
import Mathlib.Order.Lattice
set_option autoImplicit false

/-!
# Conductor: the order of events inside a window

The probe tasks race into one channel, so a window is a multiset of events that happens
to arrive in some order.  The five sums and the sorted latencies do not see the order,
and nothing else of a window outlives its tick.
-/

namespace DaemonChoir.Conductor

open DaemonChoir.Common DaemonChoir.Foundation Float64

/-! ## One window -/

/-- The latency that an event brings to the ranking. -/
def latencySample (event : RawEvent) : Option UInt64 :=
  match event.payload with
  | .cpuSched e => some e.latencyNs
  | _ => none

theorem WindowTotals.cpuLatencies_ofEvents (events : List RawEvent) :
    (ofEvents events).cpuLatencies = events.filterMap latencySample := by
  induction events using List.reverseRecOn with
  | nil => rfl
  | append_singleton events event ih =>
      have hstep : ofEvents (events ++ [event]) = (ofEvents events).add event := by
        simp [ofEvents]
      rw [hstep, List.filterMap_append, ← ih]
      unfold add
      cases hpayload : event.payload with
      | cpuSched e => simp [latencySample, hpayload]
      | memPressure e => simp [latencySample, hpayload]
      | netIo e => simp [latencySample, hpayload]
      | procLifecycle e => simp [latencySample, hpayload]

section Runs

variable {F : Type} [Float64 F]

theorem rawP95Latency_perm {first second : List UInt64} (h : first.Perm second) :
    (rawP95Latency first : F) = rawP95Latency second := by
  have hsorted := insertionSort_perm (r := (· ≤ ·)) h
  unfold rawP95Latency
  simp only [h.length_eq, List.get_eq_getElem, hsorted]

namespace Metric

theorem raw_perm (metric : Metric) {first second : List RawEvent} (h : first.Perm second) :
    (metric.raw first : F) = metric.raw second := by
  have htotal : metric.total (WindowTotals.ofEvents first) =
      metric.total (WindowTotals.ofEvents second) := by
    apply UInt64.toNat_inj.mp
    rw [total_ofEvents, total_ofEvents, weightSum, weightSum, (h.map _).sum_eq]
  cases metric with
  | cpuSchedLatencyP95 =>
      simp only [raw, WindowTotals.cpuLatencies_ofEvents]
      exact rawP95Latency_perm (h.filterMap _)
  | _ => simp only [raw, htotal]

end Metric

namespace Aggregator

/-! ## One tick -/

omit [Float64 F] in
theorem ext_ema {left right : Aggregator F} (hwindowMs : left.windowMs = right.windowMs)
    (hevents : left.currentWindowEvents = right.currentWindowEvents)
    (hema : ∀ metric : Metric, metric.ema left = metric.ema right)
    (hempty : left.consecutiveEmptyWindows = right.consecutiveEmptyWindows) :
    left = right := by
  cases left
  cases right
  rw [mk.injEq]
  exact ⟨hwindowMs, hevents, hema .cpuSchedLatencyP95, hema .cpuSchedContextRate,
    hema .memReclaimPressure, hema .netTxBytesNorm, hema .netRxBytesNorm,
    hema .procExecRate, hempty⟩

/-- The loop state with another window. -/
def withWindow (aggregator : Aggregator F) (events : List RawEvent) : Aggregator F :=
  { aggregator with currentWindowEvents := events }

variable {first second : List RawEvent}

omit [Float64 F] in
theorem countEmpty_perm (aggregator : Aggregator F) (h : first.Perm second) :
    (aggregator.withWindow first).countEmpty = (aggregator.withWindow second).countEmpty := by
  unfold countEmpty withWindow
  rw [h.isEmpty_eq]

theorem advance_perm (aggregator : Aggregator F) (h : first.Perm second) :
    (aggregator.withWindow first).advance = (aggregator.withWindow second).advance := by
  apply ext_ema
  · rfl
  · rfl
  · intro metric
    have hsmooth : metric.ema (aggregator.withWindow first).smooth =
        metric.ema (aggregator.withWindow second).smooth := by
      have hbefore : metric.ema (aggregator.withWindow first) =
          metric.ema (aggregator.withWindow second) := by
        cases metric <;> rfl
      have hraw : (metric.raw (aggregator.withWindow first).currentWindowEvents : F) =
          metric.raw (aggregator.withWindow second).currentWindowEvents :=
        metric.raw_perm h
      rw [Metric.ema_smooth, Metric.ema_smooth, hbefore, hraw]
    cases metric <;> exact hsmooth
  · exact countEmpty_perm aggregator h

theorem tick_perm (aggregator : Aggregator F) (h : first.Perm second)
    (nowUs lostEventsDelta : UInt64) :
    (aggregator.withWindow first).tick nowUs lostEventsDelta =
      (aggregator.withWindow second).tick nowUs lostEventsDelta := by
  obtain ⟨left, hleft, htickLeft⟩ :=
    (aggregator.withWindow first).tick_eq nowUs lostEventsDelta
  obtain ⟨right, hright, htickRight⟩ :=
    (aggregator.withWindow second).tick_eq nowUs lostEventsDelta
  have hadvance : (aggregator.withWindow first).advance.metrics =
      (aggregator.withWindow second).advance.metrics := by rw [aggregator.advance_perm h]
  have hmetrics : (aggregator.withWindow first).smooth.metrics =
      (aggregator.withWindow second).smooth.metrics := hadvance
  rw [hleft, hright] at hmetrics
  cases hmetrics
  rw [htickLeft, htickRight, aggregator.advance_perm h, aggregator.countEmpty_perm h]
  rfl

/-! ## Two runs -/

end Aggregator

/-- Two windows that see the same clock and the same losses, and the same events in some
order. -/
structure Window.Reordered (first second : Window) : Prop where
  nowUs : first.nowUs = second.nowUs
  lostEvents : first.lostEvents = second.lostEvents
  events : first.events.Perm second.events

namespace Aggregator

theorem runWindow_reordered (aggregator : Aggregator F) {first second : Window}
    (h : first.Reordered second) :
    aggregator.runWindow first = aggregator.runWindow second := by
  have hevents : (aggregator.currentWindowEvents ++ first.events).Perm
      (aggregator.currentWindowEvents ++ second.events) := h.events.append_left _
  unfold runWindow
  rw [receive_eq, receive_eq, h.nowUs, h.lostEvents]
  exact aggregator.tick_perm hevents second.nowUs second.lostEvents

/-- Two runs whose windows agree up to the order of their events emit the same
snapshots. -/
theorem snapshots_reordered (windowMs : UInt64) {first second : List Window}
    (h : List.Forall₂ Window.Reordered first second) :
    (new windowMs : Aggregator F).snapshots first =
      (new windowMs : Aggregator F).snapshots second := by
  -- every later window starts from the state that the earlier ones left in both runs
  generalize (new windowMs : Aggregator F) = aggregator
  induction h generalizing aggregator with
  | nil => rfl
  | cons hwindow _ ih =>
      unfold snapshots
      rw [aggregator.runWindow_reordered hwindow]
      split
      · rfl
      · rw [ih]

/-- Two scheduling events and one of the network. -/
def mixedEvents : List RawEvent :=
  [{ probe := .cpuSched, timestampNs := 1
     payload := .cpuSched
       { prevCommHash := 0, nextCommHash := 0, latencyNs := 9000, cpuId := 0 } },
    { probe := .netIo, timestampNs := 2
      payload := .netIo { bytesTx := 700, bytesRx := 0, devNameHash := 0 } },
    { probe := .cpuSched, timestampNs := 3
      payload := .cpuSched
        { prevCommHash := 0, nextCommHash := 0, latencyNs := 4000, cpuId := 1 } }]

/-- A window and its reverse lead to the same snapshots. -/
theorem snapshots_reordered_reverse :
    (new 50 : Aggregator ℚ).snapshots
        [{ events := mixedEvents, nowUs := 7, lostEvents := 1, length_lt := by decide }] =
      (new 50 : Aggregator ℚ).snapshots
        [{ events := mixedEvents.reverse, nowUs := 7, lostEvents := 1
           length_lt := by decide }] := by
  apply snapshots_reordered 50
  exact .cons ⟨rfl, rfl, (List.reverse_perm mixedEvents).symm⟩ .nil

end Aggregator

end Runs

end DaemonChoir.Conductor
