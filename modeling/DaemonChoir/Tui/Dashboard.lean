import DaemonChoir.Conductor.Baseline
import DaemonChoir.Foundation.Ramp
set_option autoImplicit false

/-!
# Tui: the dashboard (`daemon-choir-tui/src/main.rs`)

The client draws each metric of the latest snapshot as a bar of 30 columns and subtracts
the filled ones without looking.  What keeps the subtraction from underflowing is on the
other side of the connection: the aggregator publishes normalised values only.
-/

namespace DaemonChoir.Tui

open DaemonChoir.Common DaemonChoir.Conductor DaemonChoir.Foundation Float64

/-- `f64::round`, which the daemon itself does not use. -/
class Round (F : Type) where
  round : F → F

/-! ## One bar -/

section Drawing

variable {F : Type} [Float64 F] [Round F]

/-- `width`. -/
def width : Nat := 30

/-- `filled`. -/
def filled (val : F) : Nat := toNat (Round.round (mul val (Float64.ofNat width)))

/-- `str::repeat` on a string of one character. -/
def repeatChar (c : Char) (n : Nat) : String := String.ofList (List.replicate n c)

/-- `bar`.  Where `width - filled` underflows the client panics: at the subtraction in a
debug build, and at the allocation for the second part in a release build. -/
def bar (val : F) : Option String :=
  if filled val ≤ width then
    some (repeatChar '#' (filled val) ++ repeatChar '.' (width - filled val))
  else none

/-- A label under a format that fills it with blanks up to a number of columns. -/
def padded (columns : Nat) (label : String) : String :=
  label ++ repeatChar ' ' (columns - label.length)

/-- `draw_bar`; `twoPlaces` prints the value with two decimal places. -/
def drawBar (twoPlaces : F → String) (label : String) (val : F) : Option String :=
  (bar val).map fun bar =>
    "│ " ++ padded 20 label ++ " | [" ++ bar ++ "] (" ++ twoPlaces val ++ ") │"

/-- The bars of `run_dashboard`, from top to bottom. -/
def bars (metrics : MetricMap F) : List (String × F) :=
  [("CPU Latency (p95) ", metrics.cpuSchedLatencyP95),
    ("CPU Context Switches", metrics.cpuSchedContextRate),
    ("Memory Pressure     ", metrics.memReclaimPressure),
    ("Network Tx Rate     ", metrics.netTxBytesNorm),
    ("Network Rx Rate     ", metrics.netRxBytesNorm),
    ("Process Exec Rate   ", metrics.procExecRate)]

/-- The lines that `run_dashboard` draws for a snapshot, whose fields are those of the
daemon's. -/
def drawBars (twoPlaces : F → String) (snapshot : StateSnapshot F) : Option (List String) :=
  (bars snapshot.metrics).mapM fun row => drawBar twoPlaces row.1 row.2

@[simp] theorem length_repeatChar (c : Char) (n : Nat) : (repeatChar c n).length = n := by
  rw [repeatChar, String.length_ofList, List.length_replicate]

theorem length_of_bar {val : F} {text : String} (h : bar val = some text) :
    text.length = 30 := by
  unfold bar at h
  split at h
  · rename_i hle
    cases h
    rw [String.length_append, length_repeatChar, length_repeatChar]
    exact Nat.add_sub_of_le hle
  · cases h

omit [Float64 F] [Round F] in
theorem exists_metric_of_mem_bars {metrics : MetricMap F} {row : String × F}
    (h : row ∈ bars metrics) : ∃ metric : Metric, row.2 = metric.value metrics := by
  simp only [bars, List.mem_cons, List.not_mem_nil, or_false] at h
  rcases h with rfl | rfl | rfl | rfl | rfl | rfl
  · exact ⟨.cpuSchedLatencyP95, rfl⟩
  · exact ⟨.cpuSchedContextRate, rfl⟩
  · exact ⟨.memReclaimPressure, rfl⟩
  · exact ⟨.netTxBytesNorm, rfl⟩
  · exact ⟨.netRxBytesNorm, rfl⟩
  · exact ⟨.procExecRate, rfl⟩

end Drawing

/-! ## What the aggregator publishes -/

section Published

variable {F : Type} [Float64 F]

theorem metrics_of_mem_snapshots {aggregator : Aggregator F} {windows : List Window}
    {snapshot : StateSnapshot F} (h : snapshot ∈ aggregator.snapshots windows) :
    ∃ state : Aggregator F, state.metrics = some snapshot.metrics := by
  induction windows generalizing aggregator with
  | nil => cases h
  | cons window rest ih =>
      obtain ⟨metrics, hmetrics, htick⟩ :=
        (aggregator.receive window.events).tick_eq window.nowUs window.lostEvents
      rw [Aggregator.snapshots, Aggregator.runWindow, htick] at h
      rcases List.mem_cons.mp h with rfl | hrest
      · exact ⟨_, hmetrics⟩
      · exact ih hrest

variable {K : Type} [Field K] [LinearOrder K] [IsStrictOrderedRing K] [FloorRing K]

/-- The drawn values lie in the unit interval, whatever the windows contain. -/
theorem value_mem_unit {aggregator : Aggregator K} {windows : List Window}
    {snapshot : StateSnapshot K} (h : snapshot ∈ aggregator.snapshots windows)
    (metric : Metric) : metric.value snapshot.metrics ∈ Set.Icc (0 : K) 1 := by
  obtain ⟨state, hmetrics⟩ := metrics_of_mem_snapshots h
  have hrange : (metric.low : K) < (metric.high : K) := Rat.cast_lt.mpr metric.low_lt_high
  have hvalue := Metric.value_of_metrics hmetrics metric
  rw [exact_lit, exact_lit, normalizeMinMax_exact hrange, Option.some_inj] at hvalue
  rw [← hvalue]
  exact position_mem hrange _

/-! ## Drawing a snapshot -/

/-- Over an ordered field rounding is exact, and half a unit goes away from zero. -/
instance exactRound : Round K where
  round a := (roundAway a : K)

theorem filled_le_width {val : K} (h : val ∈ Set.Icc (0 : K) 1) : filled val ≤ width := by
  have hmark : roundAway (val * (width : K)) ≤ (width : ℤ) := (roundAway_mul_bounds h width).2
  have hfilled : filled val = (roundAway (val * (width : K))).toNat := by
    rw [filled, exact_toNat, exact_mul, exact_ofNat]
    exact congrArg Int.toNat (Int.floor_intCast _)
  rw [hfilled]
  omega

/-- Every metric of every snapshot that the aggregator publishes, from any state of its loop
on and over any windows, is drawn as a bar of 30 columns. -/
theorem drawBar_safe {aggregator : Aggregator K} {windows : List Window}
    {snapshot : StateSnapshot K} (h : snapshot ∈ aggregator.snapshots windows)
    (metric : Metric) :
    filled (metric.value snapshot.metrics) ≤ 30 ∧
      ∃ text, bar (metric.value snapshot.metrics) = some text ∧ text.length = 30 := by
  have hfilled := filled_le_width (value_mem_unit h metric)
  have hbar : bar (metric.value snapshot.metrics) = some _ := if_pos hfilled
  exact ⟨hfilled, _, hbar, length_of_bar hbar⟩

/-- The snapshot of a window in which a process was started. -/
theorem drawBar_safe_exec :
    ∃ snapshot ∈ (Aggregator.new 50 : Aggregator ℚ).snapshots [Aggregator.execWindow],
      filled (Metric.procExecRate.value snapshot.metrics) ≤ 30 ∧
        ∃ text, bar (Metric.procExecRate.value snapshot.metrics) = some text ∧
          text.length = 30 := by
  obtain ⟨snapshot, hget, _⟩ := Aggregator.snapshot_metrics (F := ℚ) 50
    [Aggregator.execWindow] 1 (by decide) (by decide)
  have hmem := List.mem_of_getElem? hget
  exact ⟨snapshot, hmem, drawBar_safe hmem .procExecRate⟩

/-- So the whole dashboard is drawn. -/
theorem drawBars_isSome {aggregator : Aggregator K} {windows : List Window}
    {snapshot : StateSnapshot K} (h : snapshot ∈ aggregator.snapshots windows)
    (twoPlaces : K → String) : (drawBars twoPlaces snapshot).isSome = true := by
  have hdrawn : ∀ row ∈ bars snapshot.metrics,
      ∃ line, drawBar twoPlaces row.1 row.2 = some line := by
    intro row hmem
    obtain ⟨metric, hmetric⟩ := exists_metric_of_mem_bars hmem
    have hbar : bar row.2 = some _ :=
      if_pos (hmetric ▸ filled_le_width (value_mem_unit h metric))
    exact ⟨_, by rw [drawBar, hbar, Option.map_some]⟩
  unfold drawBars
  generalize bars snapshot.metrics = rows at hdrawn
  induction rows with
  | nil => rfl
  | cons row rest ih =>
      obtain ⟨line, hline⟩ := hdrawn row List.mem_cons_self
      have hrest := ih fun other hmem => hdrawn other (List.mem_cons_of_mem _ hmem)
      obtain ⟨lines, hlines⟩ := Option.isSome_iff_exists.mp hrest
      rw [List.mapM_cons, hline, hlines]
      rfl

end Published

end DaemonChoir.Tui
