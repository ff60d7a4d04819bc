import DaemonChoir.Conductor.Windows
set_option autoImplicit false

/-!
# Conductor: what a stale snapshot reports

The flag and the six averages are independent pieces of loop state.  In exact
arithmetic an average forgets nothing completely, so a stale snapshot shows the
baseline only when no window ever carried anything measurable.
-/

namespace DaemonChoir.Conductor

open DaemonChoir.Common DaemonChoir.Foundation Float64

/-- The six metrics of a snapshot. -/
inductive Metric where
  | cpuSchedLatencyP95
  | cpuSchedContextRate
  | memReclaimPressure
  | netTxBytesNorm
  | netRxBytesNorm
  | procExecRate
  deriving DecidableEq, Repr, Inhabited

namespace Metric

/-! ## Where each metric comes from -/

/-- The lower bound of the normalisation. -/
def low : Metric → ℚ
  | .cpuSchedLatencyP95 => 1000
  | _ => 0

/-- The upper bound of the normalisation. -/
def high : Metric → ℚ
  | .cpuSchedLatencyP95 => 20000
  | .cpuSchedContextRate => 80
  | .memReclaimPressure => 500
  | .netTxBytesNorm => 30000
  | .netRxBytesNorm => 30000
  | .procExecRate => 3

theorem low_lt_high (metric : Metric) : metric.low < metric.high := by
  cases metric <;> norm_num [low, high]

/-- The wrapping sum behind a metric; the latency has none. -/
def total (metric : Metric) (totals : WindowTotals) : UInt64 :=
  match metric with
  | .cpuSchedLatencyP95 => 0
  | .cpuSchedContextRate => totals.contextSwitches
  | .memReclaimPressure => totals.pagesReclaimed
  | .netTxBytesNorm => totals.bytesTx
  | .netRxBytesNorm => totals.bytesRx
  | .procExecRate => totals.procExecs

/-- What one event adds to that sum. -/
def weight (metric : Metric) (event : RawEvent) : UInt64 :=
  match metric, event.payload with
  | .cpuSchedContextRate, .cpuSched _ => 1
  | .memReclaimPressure, .memPressure e => e.pagesReclaimed
  | .netTxBytesNorm, .netIo e => e.bytesTx
  | .netRxBytesNorm, .netIo e => e.bytesRx
  | .procExecRate, .procLifecycle _ => 1
  | _, _ => 0

/-- The sum of what the events add, before it wraps. -/
def weightSum (metric : Metric) (events : List RawEvent) : Nat :=
  (events.map fun event => (metric.weight event).toNat).sum

section Values

variable {F : Type} [Float64 F]

/-- The metric in a snapshot. -/
def value (metric : Metric) (metrics : MetricMap F) : F :=
  match metric with
  | .cpuSchedLatencyP95 => metrics.cpuSchedLatencyP95
  | .cpuSchedContextRate => metrics.cpuSchedContextRate
  | .memReclaimPressure => metrics.memReclaimPressure
  | .netTxBytesNorm => metrics.netTxBytesNorm
  | .netRxBytesNorm => metrics.netRxBytesNorm
  | .procExecRate => metrics.procExecRate

/-- Its moving average. -/
def ema (metric : Metric) (aggregator : Aggregator F) : F :=
  match metric with
  | .cpuSchedLatencyP95 => aggregator.emaCpuLatency
  | .cpuSchedContextRate => aggregator.emaCpuRate
  | .memReclaimPressure => aggregator.emaMemPressure
  | .netTxBytesNorm => aggregator.emaNetTx
  | .netRxBytesNorm => aggregator.emaNetRx
  | .procExecRate => aggregator.emaProcExec

/-- Its raw value in one window. -/
def raw (metric : Metric) (events : List RawEvent) : F :=
  match metric with
  | .cpuSchedLatencyP95 => rawP95Latency (WindowTotals.ofEvents events).cpuLatencies
  | metric => Float64.ofNat (metric.total (WindowTotals.ofEvents events)).toNat

omit [Float64 F] in
theorem ext_value {left right : MetricMap F}
    (h : ∀ metric : Metric, metric.value left = metric.value right) : left = right := by
  cases left
  cases right
  rw [MetricMap.mk.injEq]
  exact ⟨h .cpuSchedLatencyP95, h .cpuSchedContextRate, h .memReclaimPressure,
    h .netTxBytesNorm, h .netRxBytesNorm, h .procExecRate⟩

theorem value_default (metric : Metric) :
    metric.value (MetricMap.default : MetricMap F) = lit 0 := by
  cases metric <;> rfl

theorem value_of_metrics {aggregator : Aggregator F} {metrics : MetricMap F}
    (h : aggregator.metrics = some metrics) (metric : Metric) :
    normalizeMinMax (metric.ema aggregator) (lit metric.low) (lit metric.high) =
      some (metric.value metrics) := by
  simp only [Aggregator.metrics, Option.bind_eq_bind, Option.bind_eq_some_iff,
    Option.pure_def, Option.some.injEq] at h
  obtain ⟨cpuLatency, h₁, cpuRate, h₂, memPressure, h₃, netTx, h₄, netRx, h₅,
    procExec, h₆, rfl⟩ := h
  cases metric <;> assumption

theorem ema_smooth (metric : Metric) (aggregator : Aggregator F) :
    metric.ema aggregator.smooth =
      computeEma (metric.raw aggregator.currentWindowEvents) (metric.ema aggregator)
        (lit (3 / 10)) := by
  cases metric <;> rfl

omit [Float64 F] in
theorem ema_receive (metric : Metric) (aggregator : Aggregator F)
    (events : List RawEvent) :
    metric.ema (aggregator.receive events) = metric.ema aggregator := by
  rw [Aggregator.receive_eq]
  cases metric <;> rfl

end Values

/-! ## The sums of a window -/

theorem total_add (metric : Metric) (totals : WindowTotals) (event : RawEvent) :
    metric.total (totals.add event) = metric.total totals + metric.weight event := by
  unfold WindowTotals.add weight
  cases event.payload <;> cases metric <;> simp [total]

theorem total_ofEvents (metric : Metric) (events : List RawEvent) :
    (metric.total (WindowTotals.ofEvents events)).toNat =
      metric.weightSum events % 2 ^ 64 := by
  induction events using List.reverseRecOn with
  | nil => cases metric <;> rfl
  | append_singleton events event ih =>
      have hstep : WindowTotals.ofEvents (events ++ [event]) =
          (WindowTotals.ofEvents events).add event := by
        simp [WindowTotals.ofEvents]
      rw [hstep, total_add, UInt64.toNat_add, ih]
      simp [weightSum]

theorem cpuLatencies_eq_nil {events : List RawEvent}
    (h : ∀ event ∈ events, ∀ e, event.payload ≠ .cpuSched e) :
    (WindowTotals.ofEvents events).cpuLatencies = [] := by
  induction events using List.reverseRecOn with
  | nil => rfl
  | append_singleton events event ih =>
      have hearlier := ih fun other hmem => h other (List.mem_append_left _ hmem)
      have hlast := h event (by simp)
      have hstep : WindowTotals.ofEvents (events ++ [event]) =
          (WindowTotals.ofEvents events).add event := by
        simp [WindowTotals.ofEvents]
      rw [hstep]
      unfold WindowTotals.add
      cases hpayload : event.payload with
      | cpuSched e => exact absurd hpayload (hlast e)
      | memPressure e => exact hearlier
      | netIo e => exact hearlier
      | procLifecycle e => exact hearlier

theorem weightSum_le_length {metric : Metric} {events : List RawEvent}
    (h : ∀ event, (metric.weight event).toNat ≤ 1) :
    metric.weightSum events ≤ events.length := by
  unfold weightSum
  induction events with
  | nil => exact Nat.le_refl 0
  | cons event rest ih =>
      have hevent := h event
      rw [List.map_cons, List.sum_cons, List.length_cons]
      omega

/-- A count that wraps to zero counted nothing, since a window is shorter than the
range of the counter. -/
theorem weight_eq_zero_of_count {metric : Metric} {window : Window}
    (h : ∀ event, (metric.weight event).toNat ≤ 1)
    (hzero : metric.weightSum window.events % 2 ^ 64 = 0) :
    ∀ event ∈ window.events, metric.weight event = 0 := by
  have hle : metric.weightSum window.events ≤ window.events.length :=
    weightSum_le_length h
  have hlt : metric.weightSum window.events < 2 ^ 64 := hle.trans_lt window.length_lt
  have hsum : metric.weightSum window.events = 0 := by
    rwa [Nat.mod_eq_of_lt hlt] at hzero
  intro event hmem
  have hweight : (metric.weight event).toNat = 0 :=
    List.sum_eq_zero_iff.mp hsum _ (List.mem_map_of_mem hmem)
  exact UInt64.toNat_inj.mp hweight

end Metric

/-- Nothing in the window is measurable: no scheduling event, no process started, and
every sum of pages or bytes a multiple of `2 ^ 64`. -/
structure Window.Unmeasured (window : Window) : Prop where
  noSwitch : ∀ event ∈ window.events, ∀ e, event.payload ≠ .cpuSched e
  noExec : ∀ event ∈ window.events, ∀ e, event.payload ≠ .procLifecycle e
  pages : 2 ^ 64 ∣ Metric.memReclaimPressure.weightSum window.events
  bytesTx : 2 ^ 64 ∣ Metric.netTxBytesNorm.weightSum window.events
  bytesRx : 2 ^ 64 ∣ Metric.netRxBytesNorm.weightSum window.events

namespace Window

/-- Every wrapped sum of an unmeasured window is zero. -/
theorem Unmeasured.weightSum {window : Window} (h : window.Unmeasured) (metric : Metric) :
    metric.weightSum window.events % 2 ^ 64 = 0 := by
  have hcount : ∀ metric : Metric, (∀ event ∈ window.events, metric.weight event = 0) →
      metric.weightSum window.events % 2 ^ 64 = 0 := by
    intro metric hweights
    have hsum : metric.weightSum window.events = 0 := by
      apply List.sum_eq_zero_iff.mpr
      intro value hvalue
      obtain ⟨event, hmem, rfl⟩ := List.mem_map.mp hvalue
      rw [hweights event hmem]
      rfl
    rw [hsum, Nat.zero_mod]
  cases metric with
  | cpuSchedLatencyP95 => exact hcount _ fun event _ => rfl
  | cpuSchedContextRate =>
      apply hcount
      intro event hmem
      have hnot := h.noSwitch event hmem
      unfold Metric.weight
      cases hpayload : event.payload with
      | cpuSched e => exact absurd hpayload (hnot e)
      | memPressure e => rfl
      | netIo e => rfl
      | procLifecycle e => rfl
  | memReclaimPressure => exact Nat.mod_eq_zero_of_dvd h.pages
  | netTxBytesNorm => exact Nat.mod_eq_zero_of_dvd h.bytesTx
  | netRxBytesNorm => exact Nat.mod_eq_zero_of_dvd h.bytesRx
  | procExecRate =>
      apply hcount
      intro event hmem
      have hnot := h.noExec event hmem
      unfold Metric.weight
      cases hpayload : event.payload with
      | cpuSched e => rfl
      | memPressure e => rfl
      | netIo e => rfl
      | procLifecycle e => exact absurd hpayload (hnot e)

/-- A window is unmeasured when every wrapped sum is zero. -/
theorem unmeasured_of_weightSum {window : Window}
    (h : ∀ metric : Metric, metric.weightSum window.events % 2 ^ 64 = 0) :
    window.Unmeasured := by
  have hswitch : ∀ event ∈ window.events,
      Metric.cpuSchedContextRate.weight event = 0 := by
    refine Metric.weight_eq_zero_of_count (fun event => ?_) (h .cpuSchedContextRate)
    unfold Metric.weight
    cases event.payload <;> simp
  have hexec : ∀ event ∈ window.events, Metric.procExecRate.weight event = 0 := by
    refine Metric.weight_eq_zero_of_count (fun event => ?_) (h .procExecRate)
    unfold Metric.weight
    cases event.payload <;> simp
  refine ⟨?_, ?_, Nat.dvd_of_mod_eq_zero (h .memReclaimPressure),
    Nat.dvd_of_mod_eq_zero (h .netTxBytesNorm), Nat.dvd_of_mod_eq_zero (h .netRxBytesNorm)⟩
  · intro event hmem e hpayload
    have hzero := hswitch event hmem
    simp [Metric.weight, hpayload] at hzero
  · intro event hmem e hpayload
    have hzero := hexec event hmem
    simp [Metric.weight, hpayload] at hzero

end Window

section Exact

variable {K : Type} [Field K] [LinearOrder K] [IsStrictOrderedRing K] [FloorRing K]

namespace Metric

theorem ema_afterWindows (metric : Metric) (windowMs : UInt64) (windows : List Window) :
    metric.ema ((Aggregator.new windowMs : Aggregator K).afterWindows windows) =
      average (3 / 10) 0 (windows.map fun window => metric.raw window.events) := by
  induction windows using List.reverseRecOn with
  | nil =>
      have hzero : (lit 0 : K) = 0 := by simp
      cases metric <;> exact hzero
  | append_singleton windows window ih =>
      have hevents := Aggregator.receive_currentWindowEvents (F := K) windowMs windows
        window.events
      rw [List.map_append, List.map_singleton, average_append_singleton, ← ih,
        Aggregator.afterWindows_append_singleton]
      have hadvance : ∀ aggregator : Aggregator K,
          metric.ema aggregator.advance = metric.ema aggregator.smooth :=
        fun _ => by cases metric <;> rfl
      rw [hadvance, ema_smooth, hevents, ema_receive, computeEma_exact]
      norm_num

theorem raw_nonneg (metric : Metric) (events : List RawEvent) :
    (0 : K) ≤ metric.raw events := by
  cases metric with
  | cpuSchedLatencyP95 =>
      simp only [raw, rawP95Latency]
      split <;> simp
  | _ => exact Nat.cast_nonneg _

theorem raw_of_ne {metric : Metric} (h : metric ≠ .cpuSchedLatencyP95)
    (events : List RawEvent) :
    (metric.raw events : K) = ((metric.weightSum events % 2 ^ 64 : ℕ) : K) := by
  rw [← total_ofEvents]
  cases metric with
  | cpuSchedLatencyP95 => exact absurd rfl h
  | _ => rfl

theorem raw_eq_zero_iff {metric : Metric} (h : metric ≠ .cpuSchedLatencyP95)
    (events : List RawEvent) :
    (metric.raw events : K) = 0 ↔ metric.weightSum events % 2 ^ 64 = 0 := by
  rw [raw_of_ne h, Nat.cast_eq_zero]

theorem raw_of_unmeasured {window : Window} (h : window.Unmeasured) (metric : Metric) :
    (metric.raw window.events : K) = 0 := by
  by_cases hmetric : metric = .cpuSchedLatencyP95
  · rw [hmetric]
    simp [raw, rawP95Latency, cpuLatencies_eq_nil h.noSwitch]
  · exact (raw_eq_zero_iff hmetric _).mpr (h.weightSum metric)

end Metric

namespace Aggregator

/-- The metrics computed after some windows are the default ones exactly when every one
of these windows was unmeasured. -/
theorem metrics_eq_default_iff {windowMs : UInt64} {windows : List Window}
    {metrics : MetricMap K}
    (h : ((new windowMs : Aggregator K).afterWindows windows).metrics = some metrics) :
    metrics = MetricMap.default ↔ ∀ window ∈ windows, window.Unmeasured := by
  have hvalue : ∀ metric : Metric, metric.value metrics = 0 ↔
      average (3 / 10 : K) 0 (windows.map fun window => metric.raw window.events) ≤
        metric.low := by
    intro metric
    have hnorm := Metric.value_of_metrics h metric
    rw [Metric.ema_afterWindows] at hnorm
    rw [← Option.some_inj, ← hnorm]
    exact normalizeMinMax_eq_zero_iff (Rat.cast_lt.mpr metric.low_lt_high)
  have hraw : ∀ metric : Metric,
      ∀ value ∈ windows.map (fun window => (metric.raw window.events : K)), 0 ≤ value := by
    intro metric value hmem
    obtain ⟨window, _, rfl⟩ := List.mem_map.mp hmem
    exact metric.raw_nonneg _
  have haverage : ∀ metric : Metric,
      average (3 / 10 : K) 0 (windows.map fun window => metric.raw window.events) = 0 ↔
        ∀ window ∈ windows, (metric.raw window.events : K) = 0 := by
    intro metric
    rw [average_eq_zero_iff (by norm_num) (by norm_num) (hraw metric)]
    exact List.forall_mem_map
  constructor
  · intro hzero window hmem
    subst hzero
    apply Window.unmeasured_of_weightSum
    intro metric
    by_cases hmetric : metric = .cpuSchedLatencyP95
    · -- the latency adds nothing to a wrapping sum
      rw [hmetric]
      simp [Metric.weightSum, Metric.weight]
    · have hlow : metric.low = 0 := by
        cases metric with
        | cpuSchedLatencyP95 => exact absurd rfl hmetric
        | _ => rfl
      have hle := (hvalue metric).mp (by rw [Metric.value_default]; simp)
      rw [hlow, Rat.cast_zero] at hle
      have hzero := le_antisymm hle
        (average_nonneg (by norm_num) (by norm_num) le_rfl (hraw metric))
      exact (Metric.raw_eq_zero_iff hmetric _).mp ((haverage metric).mp hzero window hmem)
  · intro hquiet
    apply Metric.ext_value
    intro metric
    have hzero : average (3 / 10 : K) 0
        (windows.map fun window => metric.raw window.events) = 0 :=
      (haverage metric).mpr fun window hmem => metric.raw_of_unmeasured (hquiet window hmem)
    have hlow : (0 : K) ≤ metric.low := by
      apply Rat.cast_nonneg.mpr
      cases metric <;> norm_num [Metric.low]
    rw [Metric.value_default, exact_lit, Rat.cast_zero, hvalue metric, hzero]
    exact hlow

/-- The `k`-th snapshot exists, and it reports the baseline whenever it is stale exactly
when its counter is not in the stale range or no window up to the `k`-th carried
anything measurable. -/
theorem stale_baseline_iff (windowMs : UInt64) (windows : List Window) (k : Nat)
    (hlow : 1 ≤ k) (hhigh : k ≤ windows.length) :
    ∃ snapshot,
      ((new windowMs : Aggregator K).snapshots windows)[k - 1]? = some snapshot ∧
        ((snapshot.stale = true → snapshot.metrics = MetricMap.default) ↔
          (5 ≤ emptyRun (windows.take k) % 2 ^ 32 ∧
              emptyRun (windows.take k) % 2 ^ 32 < 2 ^ 31 →
            ∀ window ∈ windows.take k, window.Unmeasured)) := by
  obtain ⟨snapshot, hget, hstale⟩ := snapshot_stale (F := K) windowMs windows k hlow hhigh
  obtain ⟨_, hget', hmetrics⟩ := snapshot_metrics (F := K) windowMs windows k hlow hhigh
  obtain rfl := Option.some.inj (hget.symm.trans hget')
  exact ⟨snapshot, hget, imp_congr hstale (metrics_eq_default_iff hmetrics)⟩

/-- A window of a reclaim without pages and a packet without bytes. -/
def zeroWindow : Window :=
  { events := [{ probe := .memPressure, timestampNs := 0
                 payload := .memPressure { pagesReclaimed := 0, zone := 1 } },
      { probe := .netIo, timestampNs := 1
        payload := .netIo { bytesTx := 0, bytesRx := 0, devNameHash := 0 } }]
    nowUs := 0, lostEvents := 0, length_lt := by decide }

theorem unmeasured_zeroWindow : zeroWindow.Unmeasured where
  noSwitch := by simp [zeroWindow]
  noExec := by simp [zeroWindow]
  pages := by decide
  bytesTx := by decide
  bytesRx := by decide

theorem unmeasured_silentWindow : silentWindow.Unmeasured where
  noSwitch := by simp [silentWindow]
  noExec := by simp [silentWindow]
  pages := by decide
  bytesTx := by decide
  bytesRx := by decide

/-- Events without weight before five silent windows: the stale snapshot is the baseline. -/
theorem stale_baseline_iff_zero :
    ∃ snapshot,
      ((new 50 : Aggregator ℚ).snapshots (zeroWindow :: List.replicate 5 silentWindow))[5]? =
          some snapshot ∧
        snapshot.stale = true ∧ snapshot.metrics = MetricMap.default := by
  obtain ⟨snapshot, hget, hbaseline⟩ := stale_baseline_iff (K := ℚ) 50
    (zeroWindow :: List.replicate 5 silentWindow) 6 (by decide) (by decide)
  obtain ⟨_, hget', hstale⟩ := snapshot_stale (F := ℚ) 50
    (zeroWindow :: List.replicate 5 silentWindow) 6 (by decide) (by decide)
  obtain rfl := Option.some.inj (hget.symm.trans hget')
  have hrun : emptyRun ((zeroWindow :: List.replicate 5 silentWindow).take 6) = 5 := rfl
  have hflag : snapshot.stale = true := hstale.mpr (by rw [hrun]; decide)
  refine ⟨snapshot, hget, hflag, hbaseline.mpr (fun _ window hmem => ?_) hflag⟩
  rcases List.mem_cons.mp (List.mem_of_mem_take hmem) with rfl | hsilent
  · exact unmeasured_zeroWindow
  · rw [List.eq_of_mem_replicate hsilent]
    exact unmeasured_silentWindow

/-- A window in which one process was started. -/
def execWindow : Window :=
  { events := [{ probe := .procLifecycle, timestampNs := 0
                 payload := .procLifecycle { commHash := 0, uidHash := 0 } }]
    nowUs := 0, lostEvents := 0, length_lt := by decide }

/-- One process started before five silent windows still sounds in the stale snapshot. -/
theorem stale_not_always_baseline :
    ¬ ∀ (windowMs : UInt64) (windows : List Window) (k : Nat) (snapshot : StateSnapshot ℚ),
        ((new windowMs : Aggregator ℚ).snapshots windows)[k - 1]? = some snapshot →
          snapshot.stale = true → snapshot.metrics = MetricMap.default := by
  intro hclaim
  obtain ⟨snapshot, hget, hstale⟩ := snapshot_stale (F := ℚ) 50
    (execWindow :: List.replicate 5 silentWindow) 6 (by decide) (by decide)
  obtain ⟨_, hget', hmetrics⟩ := snapshot_metrics (F := ℚ) 50
    (execWindow :: List.replicate 5 silentWindow) 6 (by decide) (by decide)
  obtain rfl := Option.some.inj (hget.symm.trans hget')
  have hrun : emptyRun ((execWindow :: List.replicate 5 silentWindow).take 6) = 5 := rfl
  have hdefault : snapshot.metrics = MetricMap.default :=
    hclaim _ _ 6 _ hget (hstale.mpr (by rw [hrun]; decide))
  have hquiet := (metrics_eq_default_iff hmetrics).mp hdefault execWindow (by simp)
  exact hquiet.noExec _ (List.mem_singleton.mpr rfl) _ rfl

end Aggregator

end Exact

end DaemonChoir.Conductor
