import DaemonChoir.Conductor.Batch
import DaemonChoir.Conductor.Transforms
import Mathlib.Algebra.Order.BigOperators.Group.List
set_option autoImplicit false

/-!
# Conductor: more activity never sounds like less

Two runs over the same ticks, where every window of the second contains the events of the
first, each grown or unchanged.  The order survives the sums, the averages, the
normalisation and every transform onto a rising output range.  The latency is left out:
an additional fast switch lowers a percentile.
-/

namespace DaemonChoir.Conductor

open DaemonChoir.Common DaemonChoir.Foundation Float64

/-! ## Grown windows -/

/-- The same kind of event with no amount smaller. -/
def RawEvent.Grown (event grown : RawEvent) : Prop :=
  match event.payload, grown.payload with
  | .cpuSched _, .cpuSched _ => True
  | .memPressure e, .memPressure g => e.pagesReclaimed ≤ g.pagesReclaimed
  | .netIo e, .netIo g => e.bytesTx ≤ g.bytesTx ∧ e.bytesRx ≤ g.bytesRx
  | .procLifecycle _, .procLifecycle _ => True
  | _, _ => False

/-- The second window contains, as a multiset, all events of the first, grown. -/
def Window.Busier (quiet busy : Window) : Prop :=
  ∃ grown, List.Forall₂ RawEvent.Grown quiet.events grown ∧ grown.Subperm busy.events

namespace Metric

theorem weight_le_of_grown (metric : Metric) {event grown : RawEvent}
    (h : RawEvent.Grown event grown) :
    (metric.weight event).toNat ≤ (metric.weight grown).toNat := by
  unfold RawEvent.Grown at h
  unfold weight
  cases hevent : event.payload with
  | cpuSched e =>
      cases hgrown : grown.payload with
      | cpuSched g => cases metric <;> exact Nat.le_refl _
      | _ => simp [hevent, hgrown] at h
  | memPressure e =>
      cases hgrown : grown.payload with
      | memPressure g =>
          rw [hevent, hgrown] at h
          cases metric with
          | memReclaimPressure => exact UInt64.le_iff_toNat_le.mp h
          | _ => exact Nat.le_refl _
      | _ => simp [hevent, hgrown] at h
  | netIo e =>
      cases hgrown : grown.payload with
      | netIo g =>
          rw [hevent, hgrown] at h
          cases metric with
          | netTxBytesNorm => exact UInt64.le_iff_toNat_le.mp h.1
          | netRxBytesNorm => exact UInt64.le_iff_toNat_le.mp h.2
          | _ => exact Nat.le_refl _
      | _ => simp [hevent, hgrown] at h
  | procLifecycle e =>
      cases hgrown : grown.payload with
      | procLifecycle g => cases metric <;> exact Nat.le_refl _
      | _ => simp [hevent, hgrown] at h

theorem weightSum_le_of_busier (metric : Metric) {quiet busy : Window}
    (h : quiet.Busier busy) : metric.weightSum quiet.events ≤ metric.weightSum busy.events := by
  obtain ⟨grown, hgrown, arranged, hperm, hsublist⟩ := h
  have heach : List.Forall₂ (· ≤ ·)
      (quiet.events.map fun event => (metric.weight event).toNat)
      (grown.map fun event => (metric.weight event).toNat) := by
    rw [List.forall₂_map_left_iff, List.forall₂_map_right_iff]
    exact hgrown.imp fun _ _ => metric.weight_le_of_grown
  calc metric.weightSum quiet.events ≤ metric.weightSum grown := heach.sum_le_sum
    _ = metric.weightSum arranged := (hperm.map _).sum_eq.symm
    _ ≤ metric.weightSum busy.events :=
        (hsublist.map _).sum_le_sum fun _ _ => Nat.zero_le _

end Metric

section Exact

variable {K : Type} [Field K] [LinearOrder K] [IsStrictOrderedRing K] [FloorRing K]

namespace Metric

theorem raw_le_of_busier {metric : Metric} (hmetric : metric ≠ .cpuSchedLatencyP95)
    {quiet busy : Window} (h : quiet.Busier busy)
    (hsum : metric.weightSum busy.events < 2 ^ 64) :
    (metric.raw quiet.events : K) ≤ metric.raw busy.events := by
  have hle := metric.weightSum_le_of_busier h
  rw [raw_of_ne hmetric, raw_of_ne hmetric, Nat.mod_eq_of_lt hsum,
    Nat.mod_eq_of_lt (hle.trans_lt hsum), Nat.cast_le]
  exact hle

theorem ema_le_of_busier {metric : Metric} (hmetric : metric ≠ .cpuSchedLatencyP95)
    (windowMs : UInt64) {quiet busy : List Window}
    (h : List.Forall₂ Window.Busier quiet busy)
    (hsums : ∀ window ∈ busy, metric.weightSum window.events < 2 ^ 64) :
    metric.ema ((Aggregator.new windowMs : Aggregator K).afterWindows quiet) ≤
      metric.ema ((Aggregator.new windowMs : Aggregator K).afterWindows busy) := by
  rw [ema_afterWindows, ema_afterWindows]
  apply average_le_average (by norm_num) (by norm_num) _ le_rfl
  rw [List.forall₂_map_left_iff, List.forall₂_map_right_iff]
  clear windowMs
  induction h with
  | nil => exact .nil
  | cons hwindow _ ih =>
      rw [List.forall_mem_cons] at hsums
      exact .cons (raw_le_of_busier hmetric hwindow hsums.1) (ih hsums.2)

theorem normalize_le (metric : Metric) {low high : K} (h : low ≤ high) {atLow atHigh : K}
    (hlow : normalizeMinMax low (lit metric.low) (lit metric.high) = some atLow)
    (hhigh : normalizeMinMax high (lit metric.low) (lit metric.high) = some atHigh) :
    atLow ≤ atHigh := by
  have hrange : (metric.low : K) < (metric.high : K) := Rat.cast_lt.mpr metric.low_lt_high
  rw [exact_lit, exact_lit, normalizeMinMax_exact hrange, Option.some_inj] at hlow hhigh
  rw [← hlow, ← hhigh]
  exact position_mono hrange h

/-- The name under which rules refer to a metric. -/
def name : Metric → String
  | .cpuSchedLatencyP95 => "cpu.sched.latency_p95"
  | .cpuSchedContextRate => "cpu.sched.context_rate"
  | .memReclaimPressure => "mem.reclaim.pressure"
  | .netTxBytesNorm => "net.tx.bytes_norm"
  | .netRxBytesNorm => "net.rx.bytes_norm"
  | .procExecRate => "proc.exec.rate"

theorem getValue_name {F : Type} (metric : Metric) (metrics : MetricMap F) :
    metrics.getValue metric.name = some (metric.value metrics) := by
  cases metric <;> rfl

end Metric

end Exact

/-! ## Rules -/

/-- A rule with a rising output range keeps the order of its inputs, also when its input
range is empty. -/
theorem applyRule_le {rule : MappingRule ℝ}
    (hrange : rule.outputRange.1 ≤ rule.outputRange.2) {x y : ℝ} (hxy : x ≤ y) :
    ∃ atX atY, applyRule rule x = some atX ∧ applyRule rule y = some atY ∧ atX ≤ atY := by
  unfold applyRule
  rcases lt_or_ge rule.inputRange.1 rule.inputRange.2 with hin | hdegenerate
  · have hramp := shape_ramp rule.transform rule.outputRange.1 rule.outputRange.2
    refine ⟨_, _, applyTransform_exact x _ _ _ hin, applyTransform_exact y _ _ _ hin, ?_⟩
    exact hramp.mono hrange (position_mem hin x) (position_mem hin y) (position_mono hin hxy)
  · exact ⟨_, _, applyTransform_degenerate x _ _ _ hdegenerate,
      applyTransform_degenerate y _ _ _ hdegenerate, le_rfl⟩

/-! ## Two runs -/

namespace Aggregator

/-- Every snapshot of a busier run has each counted or summed metric at least as large, and
so is the value of every rule on that metric with a rising output range. -/
theorem snapshots_le_of_busier (windowMs : UInt64) {quiet busy : List Window}
    (h : List.Forall₂ Window.Busier quiet busy)
    (hsums : ∀ window ∈ busy, ∀ metric : Metric, metric.weightSum window.events < 2 ^ 64)
    (k : Nat) (hlow : 1 ≤ k) (hhigh : k ≤ quiet.length) :
    ∃ fewer more,
      ((new windowMs : Aggregator ℝ).snapshots quiet)[k - 1]? = some fewer ∧
      ((new windowMs : Aggregator ℝ).snapshots busy)[k - 1]? = some more ∧
      ∀ metric : Metric, metric ≠ .cpuSchedLatencyP95 →
        metric.value fewer.metrics ≤ metric.value more.metrics ∧
        ∀ rule : MappingRule ℝ, rule.sourceMetric = metric.name →
          rule.outputRange.1 ≤ rule.outputRange.2 →
            ∃ x y atX atY, fewer.metrics.getValue rule.sourceMetric = some x ∧
              more.metrics.getValue rule.sourceMetric = some y ∧
              applyRule rule x = some atX ∧ applyRule rule y = some atY ∧ atX ≤ atY := by
  obtain ⟨fewer, hfewer, hquiet⟩ := snapshot_metrics (F := ℝ) windowMs quiet k hlow hhigh
  obtain ⟨more, hmore, hbusy⟩ :=
    snapshot_metrics (F := ℝ) windowMs busy k hlow (hhigh.trans h.length_eq.le)
  refine ⟨fewer, more, hfewer, hmore, ?_⟩
  intro metric hmetric
  have hema := Metric.ema_le_of_busier (K := ℝ) hmetric windowMs (List.forall₂_take k h)
    fun window hmem => hsums window (List.mem_of_mem_take hmem) metric
  have hvalue : metric.value fewer.metrics ≤ metric.value more.metrics :=
    metric.normalize_le hema (Metric.value_of_metrics hquiet metric)
      (Metric.value_of_metrics hbusy metric)
  refine ⟨hvalue, ?_⟩
  intro rule hname hrange
  obtain ⟨atX, atY, hX, hY, hle⟩ := applyRule_le hrange hvalue
  refine ⟨_, _, atX, atY, ?_, ?_, hX, hY, hle⟩
  · rw [hname, Metric.getValue_name]
  · rw [hname, Metric.getValue_name]

/-- A window in which some pages were reclaimed. -/
def pagesWindow (pages : UInt64) : Window where
  events :=
    [{ probe := .memPressure, timestampNs := 1
       payload := .memPressure { pagesReclaimed := pages, zone := 0 } }]
  nowUs := 0
  lostEvents := 0
  length_lt := by
    rw [List.length_singleton]
    decide

/-- Forty pages instead of twenty. -/
theorem snapshots_le_of_busier_pages :
    ∃ fewer more,
      ((new 50 : Aggregator ℝ).snapshots [pagesWindow 20])[0]? = some fewer ∧
      ((new 50 : Aggregator ℝ).snapshots [pagesWindow 40])[0]? = some more ∧
      fewer.metrics.memReclaimPressure ≤ more.metrics.memReclaimPressure := by
  have hpages : (20 : UInt64) ≤ 40 := by decide
  have hbusier : (pagesWindow 20).Busier (pagesWindow 40) :=
    ⟨(pagesWindow 40).events, .cons hpages .nil, List.Subperm.refl _⟩
  have hsums : ∀ window ∈ [pagesWindow 40], ∀ metric : Metric,
      metric.weightSum window.events < 2 ^ 64 := by
    intro window hmem metric
    rw [List.mem_singleton.mp hmem]
    cases metric <;> decide
  obtain ⟨fewer, more, hfewer, hmore, hvalue⟩ :=
    snapshots_le_of_busier 50 (.cons hbusier .nil) hsums 1 (by decide) (by decide)
  exact ⟨fewer, more, hfewer, hmore, (hvalue .memReclaimPressure (by decide)).1⟩

end Aggregator

end DaemonChoir.Conductor
