import DaemonChoir.Common.Float
set_option autoImplicit false

/-!
# Common: snapshots and metrics (`daemon-choir-common/src/metrics.rs`)
-/

namespace DaemonChoir.Common

open Float64

/-- `MetricMap`. -/
structure MetricMap (F : Type) where
  cpuSchedLatencyP95 : F
  cpuSchedContextRate : F
  memReclaimPressure : F
  netTxBytesNorm : F
  netRxBytesNorm : F
  procExecRate : F
  deriving DecidableEq, Repr, Inhabited

/-- `StateSnapshot`. -/
structure StateSnapshot (F : Type) where
  timestampUs : UInt64
  windowMs : UInt64
  stale : Bool
  lostEvents : UInt64
  metrics : MetricMap F
  deriving DecidableEq, Repr, Inhabited

/-- `MetricMap::get_value`. -/
def MetricMap.getValue {F : Type} (metrics : MetricMap F) (name : String) : Option F :=
  match name with
  | "cpu.sched.latency_p95" => some metrics.cpuSchedLatencyP95
  | "cpu.sched.context_rate" => some metrics.cpuSchedContextRate
  | "mem.reclaim.pressure" => some metrics.memReclaimPressure
  | "net.tx.bytes_norm" => some metrics.netTxBytesNorm
  | "net.rx.bytes_norm" => some metrics.netRxBytesNorm
  | "proc.exec.rate" => some metrics.procExecRate
  | _ => none

/-- The names `get_value` knows. -/
def metricNames : List String :=
  ["cpu.sched.latency_p95", "cpu.sched.context_rate", "mem.reclaim.pressure",
    "net.tx.bytes_norm", "net.rx.bytes_norm", "proc.exec.rate"]

theorem MetricMap.getValue_isSome_iff {F : Type} (metrics : MetricMap F)
    (name : String) :
    (metrics.getValue name).isSome = true ↔ name ∈ metricNames := by
  unfold MetricMap.getValue metricNames
  split <;> simp_all

section Operations

variable {F : Type} [Float64 F]

/-- `impl Default for MetricMap`. -/
def MetricMap.default : MetricMap F where
  cpuSchedLatencyP95 := lit 0
  cpuSchedContextRate := lit 0
  memReclaimPressure := lit 0
  netTxBytesNorm := lit 0
  netRxBytesNorm := lit 0
  procExecRate := lit 0

/-- `compute_ema`. -/
def computeEma (current previous alpha : F) : F :=
  add (mul alpha current) (mul (sub (lit 1) alpha) previous)

/-- `normalize_min_max`; `none` is the panic of `clamp`. -/
def normalizeMinMax (val min max : F) : Option F :=
  if ge min max then some (lit 0)
  else
    match clamp val min max with
    | none => none
    | some clamped => some (div (sub clamped min) (sub max min))

/-- Between literal bounds in increasing order normalisation never panics,
whatever the arithmetic does to the value. -/
theorem normalizeMinMax_lit_isSome (val : F) {min max : ℚ} (h : min ≤ max) :
    (normalizeMinMax val (lit min) (lit max)).isSome = true := by
  unfold normalizeMinMax
  split
  · rfl
  · have hclamp : (clamp val (lit min : F) (lit max)).isSome = true :=
      clamp_isSome_iff.mpr (le_lit h)
    cases hvalue : clamp val (lit min : F) (lit max) with
    | none => simp [hvalue] at hclamp
    | some clamped => rfl

end Operations

section Exact

variable {K : Type} [Field K] [LinearOrder K] [IsStrictOrderedRing K] [FloorRing K]

@[simp] theorem computeEma_exact (current previous alpha : K) :
    computeEma current previous alpha =
      alpha * current + (1 - alpha) * previous := by
  simp [computeEma]

theorem normalizeMinMax_exact {val min max : K} (h : min < max) :
    normalizeMinMax val min max =
      some ((Max.max min (Min.min max val) - min) / (max - min)) := by
  simp [normalizeMinMax, not_le.mpr h, exact_clamp h.le]

theorem normalizeMinMax_eq_zero_iff {val min max : K} (h : min < max) :
    normalizeMinMax val min max = some 0 ↔ val ≤ min := by
  have hwidth : max - min ≠ 0 := (sub_pos.mpr h).ne'
  rw [normalizeMinMax_exact h, Option.some.injEq, div_eq_zero_iff, sub_eq_zero]
  constructor
  · intro hzero
    have hle : Min.min max val ≤ min := max_eq_left_iff.mp (hzero.resolve_right hwidth)
    exact (min_le_iff.mp hle).resolve_left (not_le.mpr h)
  · intro hval
    exact .inl (max_eq_left ((min_le_right _ _).trans hval))

end Exact

end DaemonChoir.Common
