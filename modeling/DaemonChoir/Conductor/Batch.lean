import DaemonChoir.Conductor.RawValues
import DaemonChoir.Foundation.Ramp
set_option autoImplicit false

/-!
# Conductor: the batch definition of a snapshot

A snapshot described without any loop: each metric is the normalised, exponentially
weighted sum of the true raw values of all windows so far.  The aggregator computes that
value incrementally, as long as no sum of a window leaves `u64`; after a window that does
it is below the batch value, which the normalisation hides only at its upper end.
-/

namespace DaemonChoir.Conductor

open DaemonChoir.Common DaemonChoir.Foundation Float64

section Exact

variable {K : Type} [Field K] [LinearOrder K] [IsStrictOrderedRing K] [FloorRing K]

/-! ## True raw values -/

/-- The 95th percentile of the samples, 0 when there are none. -/
def percentile95 (latencies : List UInt64) : K :=
  if h : 0 < latencies.length then
    (orderStatistic (· ≤ ·) latencies (95 * latencies.length / 100)
      (quantile_index_lt (by decide) h)).toNat
  else 0

theorem rawP95Latency_eq_percentile95 (latencies : List UInt64) :
    (rawP95Latency latencies : K) = percentile95 latencies := by
  unfold percentile95
  by_cases h : 0 < latencies.length
  · rw [dif_pos h, rawP95Latency_eq h]
  · rw [dif_neg h, rawP95Latency, dif_neg h, exact_lit, Rat.cast_zero]

namespace Metric

/-- The raw value of a window as a statistic of its events: the percentile of the
latencies, or the true count or sum. -/
def trueRaw (metric : Metric) (events : List RawEvent) : K :=
  match metric with
  | .cpuSchedLatencyP95 => percentile95 (events.filterMap latencySample)
  | metric => (metric.weightSum events : K)

/-- The batch definition of a metric after some windows. -/
def batchAverage (metric : Metric) (windows : List Window) : K :=
  weightedSum (3 / 10) (windows.map fun window => metric.trueRaw window.events)

/-- A sum is at most its true value, and equal to it exactly below `2 ^ 64`. -/
theorem raw_le_trueRaw (metric : Metric) (events : List RawEvent) :
    (metric.raw events : K) ≤ metric.trueRaw events ∧
      ((metric.raw events : K) = metric.trueRaw events ↔
        metric.weightSum events < 2 ^ 64) := by
  by_cases hmetric : metric = .cpuSchedLatencyP95
  · have hequal : (metric.raw events : K) = metric.trueRaw events := by
      rw [hmetric, raw, trueRaw, WindowTotals.cpuLatencies_ofEvents,
        rawP95Latency_eq_percentile95]
    have hnothing : metric.weightSum events = 0 := by
      rw [hmetric]
      simp [weightSum, weight]
    exact ⟨hequal.le, by simp [hequal, hnothing]⟩
  · have htrue : (metric.trueRaw events : K) = (metric.weightSum events : K) := by
      cases metric with
      | cpuSchedLatencyP95 => exact absurd rfl hmetric
      | _ => rfl
    have hle : metric.weightSum events % 2 ^ 64 ≤ metric.weightSum events := Nat.mod_le _ _
    rw [raw_of_ne hmetric, htrue, Nat.cast_inj]
    exact ⟨Nat.cast_le.mpr hle, by omega⟩

/-- A count of events never leaves `u64`, and a latency is no sum. -/
theorem low_eq_zero_of_overflow {metric : Metric} {events : List RawEvent}
    (h : ¬ metric.weightSum events < 2 ^ 64) : metric.low = 0 := by
  cases metric with
  | cpuSchedLatencyP95 => simp [weightSum, weight] at h
  | _ => rfl

/-! ## The averages -/

variable (windows : List Window)

/-- The raw values that the aggregator saw, one for each window. -/
def raws (metric : Metric) : List K := windows.map fun window => metric.raw window.events

/-- The true ones. -/
def trueRaws (metric : Metric) : List K :=
  windows.map fun window => metric.trueRaw window.events

variable {windows}

theorem raws_forall₂ (metric : Metric) :
    List.Forall₂ (· ≤ ·) (metric.raws windows : List K) (metric.trueRaws windows) := by
  unfold raws trueRaws
  rw [List.forall₂_map_left_iff, List.forall₂_map_right_iff, List.forall₂_same]
  intro window _
  exact (metric.raw_le_trueRaw window.events).1

theorem raws_eq_iff (metric : Metric) :
    (metric.raws windows : List K) = metric.trueRaws windows ↔
      ∀ window ∈ windows, metric.weightSum window.events < 2 ^ 64 := by
  unfold raws trueRaws
  rw [List.map_inj_left]
  apply forall₂_congr
  intro window _
  exact (metric.raw_le_trueRaw window.events).2

theorem zero_le_ema (metric : Metric) (windowMs : UInt64) :
    (0 : K) ≤ metric.ema ((Aggregator.new windowMs : Aggregator K).afterWindows windows) := by
  rw [ema_afterWindows]
  apply average_nonneg (by norm_num) (by norm_num) le_rfl
  intro value hmem
  obtain ⟨window, _, rfl⟩ := List.mem_map.mp hmem
  exact metric.raw_nonneg window.events

/-- The average never exceeds the largest true raw value. -/
theorem ema_le_trueRaw (metric : Metric) (windowMs : UInt64) (hnonempty : windows ≠ []) :
    ∃ window ∈ windows,
      metric.ema ((Aggregator.new windowMs : Aggregator K).afterWindows windows) ≤
        metric.trueRaw window.events := by
  by_contra hall
  push Not at hall
  have hbound : (0 : K) ≤
      metric.ema ((Aggregator.new windowMs : Aggregator K).afterWindows windows) :=
    metric.zero_le_ema windowMs
  have hless : average (3 / 10 : K) 0 (metric.raws windows) <
      metric.ema ((Aggregator.new windowMs : Aggregator K).afterWindows windows) := by
    apply average_lt_of_forall_lt (by norm_num) (by norm_num) hbound
    · simpa [raws] using hnonempty
    · intro value hmem
      obtain ⟨window, hwindow, rfl⟩ := List.mem_map.mp hmem
      exact (metric.raw_le_trueRaw window.events).1.trans_lt (hall window hwindow)
  rw [ema_afterWindows] at hless
  exact hless.ne rfl

/-- The average of the sums modulo `2 ^ 64`. -/
def wrappedAverage (metric : Metric) (windows : List Window) : K :=
  weightedSum (3 / 10)
    (windows.map fun window => ((metric.weightSum window.events % 2 ^ 64 : ℕ) : K))

/-- Normalisation hides an overflow only from the upper bound on. -/
theorem normalize_batch_iff (metric : Metric) (windowMs : UInt64) :
    normalizeMinMax (metric.batchAverage windows : K) (lit metric.low) (lit metric.high) =
        normalizeMinMax
          (metric.ema ((Aggregator.new windowMs : Aggregator K).afterWindows windows))
          (lit metric.low) (lit metric.high) ↔
      (∀ window ∈ windows, metric.weightSum window.events < 2 ^ 64) ∨
        (metric.high : K) ≤ metric.wrappedAverage windows := by
  have hrange : (metric.low : K) < (metric.high : K) := Rat.cast_lt.mpr metric.low_lt_high
  have hbatch : (metric.batchAverage windows : K) = average (3 / 10) 0 (metric.trueRaws windows) :=
    (average_eq_weightedSum _ _).symm
  have hema : metric.ema ((Aggregator.new windowMs : Aggregator K).afterWindows windows) =
      average (3 / 10) 0 (metric.raws windows) := ema_afterWindows metric windowMs windows
  by_cases hfits : ∀ window ∈ windows, metric.weightSum window.events < 2 ^ 64
  · rw [hbatch, hema, metric.raws_eq_iff.mpr hfits]
    exact ⟨fun _ => .inl hfits, fun _ => rfl⟩
  · rw [or_iff_right hfits]
    have hoverflow := hfits
    push Not at hoverflow
    obtain ⟨window, _, hlarge⟩ := hoverflow
    have hlow : metric.low = 0 := low_eq_zero_of_overflow (not_lt.mpr hlarge)
    have hwrapped : metric.wrappedAverage windows =
        metric.ema ((Aggregator.new windowMs : Aggregator K).afterWindows windows) := by
      rw [hema, wrappedAverage, ← average_eq_weightedSum, raws]
      congr 2
      funext window
      rw [raw_of_ne (by intro h; rw [h] at hlow; norm_num [low] at hlow)]
    have hstart : (metric.low : K) ≤ metric.wrappedAverage windows := by
      rw [hwrapped, hlow, Rat.cast_zero]
      exact metric.zero_le_ema windowMs
    have hless : metric.wrappedAverage windows < (metric.batchAverage windows : K) := by
      rw [hwrapped, hema, hbatch]
      apply average_lt_average (by norm_num) (by norm_num) metric.raws_forall₂ le_rfl
      exact .inr fun hequal => hfits (metric.raws_eq_iff.mp hequal)
    rw [← hwrapped, exact_lit, exact_lit, normalizeMinMax_exact hrange,
      normalizeMinMax_exact hrange, Option.some_inj]
    exact ⟨fun h => (position_eq_iff hrange hstart hless).mp h.symm,
      fun h => ((position_eq_iff hrange hstart hless).mpr h).symm⟩

/-- The value of a metric in a snapshot is the batch value of the windows so far, its
average is at most one of their true raw values, and it lies in the unit interval. -/
structure IsBatch (metric : Metric) (windows : List Window) (average value : K) : Prop where
  batch : normalizeMinMax (metric.batchAverage windows) (lit metric.low) (lit metric.high) =
    some value
  average_le : ∃ window ∈ windows, average ≤ metric.trueRaw window.events
  unit : value ∈ Set.Icc (0 : K) 1

end Metric

namespace Aggregator

/-- The `n`-th snapshot holds the batch value of a metric exactly when no window so far has
a sum of `2 ^ 64` or more, or the average of the wrapped sums is beyond the upper bound
anyway. -/
theorem snapshot_isBatch_iff (windowMs : UInt64) (windows : List Window) (n : Nat)
    (hlow : 1 ≤ n) (hhigh : n ≤ windows.length) (metric : Metric) :
    ∃ snapshot, ((new windowMs : Aggregator K).snapshots windows)[n - 1]? = some snapshot ∧
      (metric.IsBatch (windows.take n)
          (metric.ema ((new windowMs : Aggregator K).afterWindows (windows.take n)))
          (metric.value snapshot.metrics) ↔
        (∀ window ∈ windows.take n, metric.weightSum window.events < 2 ^ 64) ∨
          (metric.high : K) ≤ metric.wrappedAverage (windows.take n)) := by
  obtain ⟨snapshot, hget, hmetrics⟩ :=
    snapshot_metrics (F := K) windowMs windows n hlow hhigh
  have hvalue := Metric.value_of_metrics hmetrics metric
  have hrange : (metric.low : K) < (metric.high : K) := Rat.cast_lt.mpr metric.low_lt_high
  refine ⟨snapshot, hget, ?_⟩
  rw [← metric.normalize_batch_iff (K := K) windowMs, hvalue]
  constructor
  · intro h
    exact h.batch
  · intro hbatch
    refine ⟨hbatch, ?_, ?_⟩
    · apply metric.ema_le_trueRaw windowMs
      intro hnil
      have hlength := congrArg List.length hnil
      rw [List.length_take_of_le hhigh, List.length_nil] at hlength
      omega
    · rw [exact_lit, exact_lit, normalizeMinMax_exact hrange, Option.some_inj] at hvalue
      rw [← hvalue]
      exact position_mem hrange _

/-- A switch, a reclaim, a packet and an exec. -/
def mixedWindow : Window where
  events := [
    { probe := .cpuSched, timestampNs := 1
      payload := .cpuSched { prevCommHash := 1, nextCommHash := 2, latencyNs := 9000, cpuId := 0 } },
    { probe := .memPressure, timestampNs := 2
      payload := .memPressure { pagesReclaimed := 64, zone := 1 } },
    { probe := .netIo, timestampNs := 3
      payload := .netIo { bytesTx := 1500, bytesRx := 900, devNameHash := 3 } },
    { probe := .procLifecycle, timestampNs := 4
      payload := .procLifecycle { commHash := 4, uidHash := 5 } }]
  nowUs := 0
  lostEvents := 0
  length_lt := by decide

/-- Two reclaims. -/
def secondWindow : Window where
  events := [
    { probe := .memPressure, timestampNs := 5
      payload := .memPressure { pagesReclaimed := 256, zone := 1 } },
    { probe := .memPressure, timestampNs := 6
      payload := .memPressure { pagesReclaimed := 300, zone := 1 } }]
  nowUs := 50000
  lostEvents := 0
  length_lt := by decide

/-- Every metric of the second of two such windows has its batch value. -/
theorem snapshot_isBatch_iff_mixed :
    ∃ snapshot, ((new 50 : Aggregator ℚ).snapshots [mixedWindow, secondWindow])[1]? =
        some snapshot ∧
      ∀ metric : Metric, metric.IsBatch [mixedWindow, secondWindow]
        (metric.ema ((new 50 : Aggregator ℚ).afterWindows [mixedWindow, secondWindow]))
        (metric.value snapshot.metrics) := by
  have hbatches := snapshot_isBatch_iff (K := ℚ) 50 [mixedWindow, secondWindow] 2
    (by decide) (by decide)
  obtain ⟨snapshot, hget, _⟩ := hbatches .memReclaimPressure
  refine ⟨snapshot, hget, ?_⟩
  intro metric
  obtain ⟨same, hsame, hbatch⟩ := hbatches metric
  obtain rfl : snapshot = same := Option.some.inj (hget.symm.trans hsame)
  refine hbatch.mpr (.inl ?_)
  intro window hmem
  rcases List.mem_pair.mp (List.mem_of_mem_take hmem) with rfl | rfl
  · cases metric <;> decide
  · cases metric <;> decide

/-- A window of two events of `2 ^ 63` reclaimed pages each. -/
def reclaimWindow : Window where
  events := [WindowTotals.hugeReclaim, WindowTotals.hugeReclaim]
  nowUs := 0
  lostEvents := 0
  length_lt := by decide

/-- After it the reclaim pressure is 0 although `2 ^ 64` pages were reclaimed. -/
theorem snapshot_not_always_isBatch :
    ¬ ∀ (windowMs : UInt64) (windows : List Window) (n : Nat), 1 ≤ n → n ≤ windows.length →
        ∀ metric : Metric, ∃ snapshot,
          ((new windowMs : Aggregator ℚ).snapshots windows)[n - 1]? = some snapshot ∧
            metric.IsBatch (windows.take n)
              (metric.ema ((new windowMs : Aggregator ℚ).afterWindows (windows.take n)))
              (metric.value snapshot.metrics) := by
  intro hclaim
  obtain ⟨snapshot, hget, hbatch⟩ :=
    hclaim 50 [reclaimWindow] 1 (by decide) (by decide) .memReclaimPressure
  obtain ⟨actual, hactual, hmetrics⟩ :=
    snapshot_metrics (F := ℚ) 50 [reclaimWindow] 1 (by decide) (by decide)
  obtain rfl : actual = snapshot := Option.some.inj (hactual.symm.trans hget)
  have hequal := hbatch.batch.trans
    (Metric.value_of_metrics hmetrics .memReclaimPressure).symm
  have hsum : Metric.memReclaimPressure.weightSum reclaimWindow.events = 2 ^ 64 := by decide
  rcases (Metric.normalize_batch_iff .memReclaimPressure 50).mp hequal with hfits | hbeyond
  · have hlt := hfits reclaimWindow (by simp)
    omega
  · have hzero : Metric.memReclaimPressure.wrappedAverage [reclaimWindow] = (0 : ℚ) := by
      simp [Metric.wrappedAverage, weightedSum, hsum]
    rw [List.take_of_length_le (by decide), hzero] at hbeyond
    norm_num [Metric.high] at hbeyond

end Aggregator

end Exact

end DaemonChoir.Conductor
