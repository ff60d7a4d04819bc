import DaemonChoir.Conductor.Confinement
import DaemonChoir.Conductor.DispatchLatency
import DaemonChoir.Conductor.RingPath
set_option autoImplicit false

/-!
# Conductor: a metric that no event feeds

What a probe never reports, no snapshot ever shows: in exact arithmetic a sum that stays
empty stays at zero through average and normalisation, wherever in the daemon its snapshots
are.  The transmit hook of the kernel reports no received bytes, so that this is how the
daemon hears received bytes outside simulation.
-/

namespace DaemonChoir.Conductor

open DaemonChoir.Common DaemonChoir.Foundation Float64

/-! ## Windows without weight -/

section Windows

variable {K : Type} [Field K] [LinearOrder K] [IsStrictOrderedRing K] [FloorRing K]

theorem Metric.raw_eq_zero {metric : Metric} (hsum : metric ≠ .cpuSchedLatencyP95)
    {events : List RawEvent} (h : ∀ event ∈ events, metric.weight event = 0) :
    (metric.raw events : K) = 0 := by
  have hweights : metric.weightSum events = 0 := by
    refine List.sum_eq_zero_iff.mpr fun value hvalue => ?_
    obtain ⟨event, hmem, rfl⟩ := List.mem_map.mp hvalue
    rw [h event hmem]
    rfl
  have htotal : (metric.total (WindowTotals.ofEvents events)).toNat = 0 := by
    rw [metric.total_ofEvents, hweights, Nat.zero_mod]
  cases metric with
  | cpuSchedLatencyP95 => exact absurd rfl hsum
  | _ => simp [Metric.raw, htotal]

theorem Metric.ema_smooth_eq_zero {metric : Metric} (hsum : metric ≠ .cpuSchedLatencyP95)
    {aggregator : Aggregator K} (hema : metric.ema aggregator = 0)
    (h : ∀ event ∈ aggregator.currentWindowEvents, metric.weight event = 0) :
    metric.ema aggregator.smooth = 0 := by
  rw [metric.ema_smooth, computeEma_exact, Metric.raw_eq_zero hsum h, hema, mul_zero, mul_zero,
    add_zero]

theorem Metric.value_eq_zero {metric : Metric} (hsum : metric ≠ .cpuSchedLatencyP95)
    {aggregator : Aggregator K} (hema : metric.ema aggregator = 0) {metrics : MetricMap K}
    (h : aggregator.metrics = some metrics) : metric.value metrics = 0 := by
  have hvalue := Metric.value_of_metrics h metric
  have hbounds : (metric.low : K) < (metric.high : K) := Rat.cast_lt.mpr metric.low_lt_high
  have hlow : (metric.low : K) = 0 := by
    cases metric with
    | cpuSchedLatencyP95 => exact absurd rfl hsum
    | _ => exact Rat.cast_zero
  rw [exact_lit, exact_lit, hema] at hvalue
  have hzero := (normalizeMinMax_eq_zero_iff hbounds).mpr hlow.ge
  exact Option.some.inj (hvalue.symm.trans hzero)

end Windows

theorem confines_silent {K : Type} [Field K] [LinearOrder K] [IsStrictOrderedRing K] [FloorRing K]
    {metric : Metric} (hsum : metric ≠ .cpuSchedLatencyP95) :
    Tasks.Confines (F := K) metric (fun event => metric.weight event = 0) (· = 0) (· = 0) where
  new _ := by cases metric <;> exact Rat.cast_zero
  smooth _ haverage hevents := metric.ema_smooth_eq_zero hsum haverage hevents
  value _ _ haverage hmetrics := metric.value_eq_zero hsum haverage hmetrics
  default := metric.value_default.trans Rat.cast_zero

namespace Tasks

/-! ## Received bytes outside simulation -/

section Kernel

/-- An event that a drain loop offers in some run of the programs in the kernel. -/
def FromKernel (event : RawEvent) : Prop :=
  ∃ trace path probeId, Run RingPath.step RingPath.started trace path ∧
    event ∈ path.attempts probeId

theorem weight_of_fromKernel {event : RawEvent} (h : FromKernel event) :
    Metric.netRxBytesNorm.weight event = 0 := by
  obtain ⟨trace, path, probeId, run, hmem⟩ := h
  obtain ⟨map, tracepoint, record, hfire, hpayload⟩ := RingPath.submitted_of_attempt run hmem
  unfold Metric.weight
  rw [← hpayload]
  cases record with
  | netIo submitted => exact Kernel.bytesRx_of_fire hfire
  | _ => rfl

variable {ι K : Type} [Field K] [LinearOrder K] [IsStrictOrderedRing K] [FloorRing K] [Libm K]
  [DecidableEq ι] {encode : OscBundle K → Option (List UInt8)}

/-- Without simulators the daemon never hears received bytes: `net.rx.bytes_norm` is zero in
`shared_state` and in every snapshot that the engine takes, so that a rule for it sends the same
value in every frame, whatever the network does. -/
theorem receive_silent {kinds : ι → ProbeKind} {config : Config K} {db : Database K}
    {trace : List (Tasks ι K × TasksLabel ι K)} {final : Tasks ι K}
    (run : Run (step encode) (started kinds config db) trace final)
    (hkernel : ∀ visit ∈ trace, Generates FromKernel visit.2) :
    final.tapped.sharedState.value.metrics.netRxBytesNorm = 0 ∧
      (∀ visit ∈ trace, ∀ snapshot, visit.1.engine = .holding snapshot →
        snapshot.item.metrics.netRxBytesNorm = 0) ∧
      ∀ visit ∈ trace, ∀ snapshot params, visit.1.engine = .holding snapshot →
        mappingFrame visit.1.cells.mappingRules snapshot.item = .mapped params →
        ∀ rule ∈ visit.1.cells.mappingRules.value, rule.sourceMetric = "net.rx.bytes_norm" →
          ∃ param ∈ params, param.oscAddress = rule.oscAddress ∧
            applyRule rule 0 = some param.value := by
  have hgenerates : ∀ visit ∈ trace,
      Generates (fun event => Metric.netRxBytesNorm.weight event = 0) visit.2 := by
    intro visit hmem
    have hvisit := hkernel visit hmem
    obtain ⟨tasks, label⟩ := visit
    cases label with
    | probe label =>
        cases label with
        | generate probe event => exact weight_of_fromKernel hvisit
        | _ => trivial
    | _ => trivial
  obtain ⟨hfinal, hvisits⟩ := confined_of_run (confines_silent (by decide)) run hgenerates
  refine ⟨hfinal.shared, fun visit hmem => (hvisits visit hmem).held, ?_⟩
  intro visit hmem snapshot params hholding hframe rule hrule hsource
  have hvalue : snapshot.item.metrics.getValue rule.sourceMetric =
      some (Metric.netRxBytesNorm.value snapshot.item.metrics) := by
    rw [hsource]
    rfl
  obtain ⟨param, hparam, haddress, val, hzero, happly⟩ :=
    (hvisits visit hmem).mapped hholding hframe hrule hvalue
  refine ⟨param, hparam, haddress, ?_⟩
  rw [← hzero]
  exact happly

/-- A packet of the transmit hook, as its drain loop offers it. -/
def packetEvent : RawEvent :=
  { probe := .netIo, timestampNs := 5
    payload := .netIo { bytesTx := 1500, bytesRx := 0, devNameHash := 0xcbf29ce484222325 } }

theorem fromKernel_packetEvent : FromKernel packetEvent := by
  have run : Run RingPath.step RingPath.started _ _ :=
    execute_sound [.fire (.netDevXmit { len := 1500, name := none } true) [],
      .drain .netIo ⟨5⟩ .ok] rfl
  exact ⟨_, _, .netIo, run, List.mem_singleton.mpr rfl⟩

/-- A rule that turns received bytes into a pitch. -/
def receivedPitch : Config ℚ :=
  { (Config.default : Config ℚ) with
    mapping := [{ sourceMetric := "net.rx.bytes_norm"
                  oscAddress := "/choir/voice/2/frequency"
                  transform := "linear"
                  inputRange := (0, 1)
                  outputRange := (440, 1760) }] }

/-- The packet goes into a window, and the snapshot of the window to the engine. -/
def packetMapped : List (TasksLabel Unit ℚ) :=
  [.probe (.generate () packetEvent), .probe (.send ()), .receive, .forward, .aggregate,
    .tick 1000000, .publish, .offer, .output .receiveSnapshot, .output .readRules]

/-- A packet of 1500 bytes is heard as no received bytes, in the snapshot that the engine
takes. -/
theorem receive_silent_packet :
    ∃ front visit final snapshot,
      Run (step fun _ => none) (started (fun _ : Unit => .ebpf) receivedPitch
        ⟨some .sqlite, ⟨[], []⟩⟩) (front ++ [visit]) final ∧
      final.tapped.spawned = [packetEvent] ∧ visit.1.engine = .holding snapshot ∧
      snapshot.item.metrics.netRxBytesNorm = 0 := by
  have run : Run (step fun _ => none) (started (fun _ : Unit => .ebpf) receivedPitch
      ⟨some .sqlite, ⟨[], []⟩⟩) ([_, _, _, _, _, _, _, _, _] ++ [_]) _ :=
    execute_sound packetMapped rfl
  refine ⟨_, _, _, _, run, rfl, rfl, (receive_silent run ?_).2.1 _
    (List.mem_append_right _ (List.mem_singleton_self _)) _ rfl⟩
  refine List.forall_mem_cons.mpr ⟨fromKernel_packetEvent, ?_⟩
  simp [Generates]

end Kernel

end Tasks

end DaemonChoir.Conductor
