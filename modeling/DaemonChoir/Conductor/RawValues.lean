import DaemonChoir.Conductor.WindowOrder
import DaemonChoir.Foundation.OrderStatistic
import Mathlib.Algebra.Order.Floor.Semifield
set_option autoImplicit false

/-!
# Conductor: what one window measures

The raw values of a window before any smoothing: the latency statistic as an order
statistic of the samples, and the five sums as far as `u64` can hold them.
-/

namespace DaemonChoir.Conductor

open DaemonChoir.Common DaemonChoir.Foundation Float64

/-! ## The latency statistic -/

section Latency

variable {K : Type} [Field K] [LinearOrder K] [IsStrictOrderedRing K] [FloorRing K]

theorem p95Index_exact (n : Nat) :
    toNat (floor (mul (ofNat n : K) (lit (95 / 100)))) = 95 * n / 100 := by
  have hexact : (n : K) * ((95 / 100 : ℚ) : K) = ((95 * n : ℕ) : K) / ((100 : ℕ) : K) := by
    push_cast
    ring
  rw [exact_toNat, exact_floor, exact_mul, exact_ofNat, exact_lit, hexact,
    Int.floor_intCast, Int.floor_toNat, Nat.floor_div_eq_div]

theorem rawP95Latency_eq {latencies : List UInt64} (h : 0 < latencies.length) :
    (rawP95Latency latencies : K) =
      (orderStatistic (· ≤ ·) latencies (95 * latencies.length / 100)
        (quantile_index_lt (by decide) h)).toNat := by
  have hindex : 95 * latencies.length / 100 < latencies.length :=
    quantile_index_lt (by decide) h
  have hclamped : min (95 * latencies.length / 100) (latencies.length - 1) =
      95 * latencies.length / 100 := by omega
  simp only [rawP95Latency, dif_pos h, p95Index_exact, hclamped]
  rfl

/-- The statistic of a nonempty list is a 95th percentile of it, depends only on the
multiset of samples, and does not fall when samples grow; the clamp of the index never
acts. -/
theorem rawP95Latency_percentile {latencies : List UInt64} (h : 0 < latencies.length) :
    toNat (floor (mul (ofNat latencies.length : K) (lit (95 / 100)))) =
        95 * latencies.length / 100 ∧
      95 * latencies.length / 100 < latencies.length ∧
      ∃ v ∈ latencies, (rawP95Latency latencies : K) = (v.toNat : K) ∧
        100 * latencies.countP (· < v) ≤ 95 * latencies.length ∧
        95 * latencies.length ≤ 100 * latencies.countP (· ≤ v) ∧
        (∀ other : List UInt64, other.Perm latencies →
          (rawP95Latency other : K) = (v.toNat : K)) ∧
        ∀ other : List UInt64, List.Forall₂ (· ≤ ·) latencies other →
          (v.toNat : K) ≤ rawP95Latency other := by
  have hindex : 95 * latencies.length / 100 < latencies.length :=
    quantile_index_lt (by decide) h
  have hquantile : IsQuantile (· ≤ ·) 95 100 latencies _ :=
    orderStatistic_isQuantile (by decide) h
  refine ⟨p95Index_exact _, hindex, _, hquantile.mem, rawP95Latency_eq h, ?_,
    hquantile.upTo, ?_, ?_⟩
  · simpa only [UInt64.not_le] using hquantile.before
  · intro other hperm
    rw [rawP95Latency_perm hperm, rawP95Latency_eq h]
  · intro other hdominates
    have hlength : latencies.length = other.length := hdominates.length_eq
    have hother : 0 < other.length := by omega
    rw [rawP95Latency_eq hother, Nat.cast_le]
    simp only [← hlength]
    exact UInt64.le_iff_toNat_le.mp (orderStatistic_forall₂ hdominates hindex _)

/-- The statistic of three samples is one of them. -/
theorem rawP95Latency_percentile_three :
    ∃ v ∈ [(700 : UInt64), 900, 800], (rawP95Latency [700, 900, 800] : ℚ) = (v.toNat : ℚ) ∧
      100 * [(700 : UInt64), 900, 800].countP (· < v) ≤ 95 * 3 := by
  have hlength : 0 < [(700 : UInt64), 900, 800].length := Nat.succ_pos 2
  obtain ⟨_, _, v, hmem, hvalue, hbefore, _⟩ := rawP95Latency_percentile (K := ℚ) hlength
  exact ⟨v, hmem, hvalue, hbefore⟩

end Latency

/-! ## The sums -/

namespace WindowTotals

/-- Every total is the true count or sum over the window. -/
def Exact (events : List RawEvent) : Prop :=
  ∀ metric : Metric, (metric.total (ofEvents events)).toNat = metric.weightSum events

/-- No addition of the loop leaves the range of `u64`. -/
def NoOverflow (events : List RawEvent) : Prop :=
  ∀ front event back, events = front ++ event :: back → ∀ metric : Metric,
    (metric.total (ofEvents front)).toNat + (metric.weight event).toNat < 2 ^ 64

theorem exact_metric_iff (metric : Metric) (events : List RawEvent) :
    (metric.total (ofEvents events)).toNat = metric.weightSum events ↔
      metric.weightSum events < 2 ^ 64 := by
  rw [Metric.total_ofEvents]
  omega

theorem noOverflow_of_lt {events : List RawEvent}
    (h : ∀ metric : Metric, metric.weightSum events < 2 ^ 64) : NoOverflow events := by
  intro front event back hevents metric
  have hsplit : metric.weightSum events =
      metric.weightSum front + ((metric.weight event).toNat + metric.weightSum back) := by
    rw [hevents, Metric.weightSum, List.map_append, List.sum_append, List.map_cons,
      List.sum_cons]
    rfl
  have hlt := h metric
  rw [Metric.total_ofEvents]
  omega

/-- The loop counts and sums truly, and no addition overflows, exactly when each of the
five true results is below `2 ^ 64`. -/
theorem exact_iff (events : List RawEvent) :
    (Exact events ∧ NoOverflow events) ↔
      ∀ metric : Metric, metric.weightSum events < 2 ^ 64 := by
  constructor
  · intro h metric
    exact (exact_metric_iff metric events).mp (h.1 metric)
  · intro h
    exact ⟨fun metric => (exact_metric_iff metric events).mpr (h metric),
      noOverflow_of_lt h⟩

/-- One event of `2 ^ 63` reclaimed pages. -/
def hugeReclaim : RawEvent where
  probe := .memPressure
  timestampNs := 0
  payload := .memPressure { pagesReclaimed := 9223372036854775808, zone := 0 }

/-- Two of them make a total of zero. -/
theorem not_always_exact : ¬ ∀ events, Exact events ∧ NoOverflow events := by
  intro hclaim
  have htotal := (hclaim [hugeReclaim, hugeReclaim]).1 .memReclaimPressure
  have hzero : (ofEvents [hugeReclaim, hugeReclaim]).pagesReclaimed = 0 := by decide
  rw [Metric.total, hzero] at htotal
  cases htotal

end WindowTotals

end DaemonChoir.Conductor
