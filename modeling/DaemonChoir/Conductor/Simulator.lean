import DaemonChoir.Conductor.Confinement
import DaemonChoir.Conductor.DispatchLatency
import DaemonChoir.Conductor.ProbeLoading
import DaemonChoir.Conductor.RawValues
set_option autoImplicit false

/-!
# Conductor: simulated probes (`run_simulator_probe`)

A simulator makes its events from a counter of its turns, so that all it ever reports is known
beforehand.  Its latencies stay far below what the normalisation is made for, and its page and
process events follow a fixed rhythm.
-/

namespace DaemonChoir.Conductor

open DaemonChoir.Common DaemonChoir.Foundation Float64

/-- `f64::sin` -/
class Sine (F : Type) where
  sin : F → F

open Sine

/-! ## The code -/

section Code

/-- `as_bytes` of a text in ASCII. -/
def asciiBytes (text : String) : List UInt8 := text.toList.map fun c => UInt8.ofNat c.toNat

/-- `prev_comm` and `next_comm` -/
def workerComm (counter : UInt64) : List UInt8 :=
  asciiBytes ("worker-" ++ Nat.repr (counter % 4).toNat)

variable (F : Type) [Float64 F] [Sine F]

/-- `load_factor` -/
def loadFactor (counter : UInt64) : F :=
  add (mul (sin (mul (ofNat counter.toNat) (lit (1 / 10)))) (lit (1 / 2))) (lit (1 / 2))

/-- `payload` of a turn; `none` is `continue`. -/
def simulatorPayload (name : String) (counter : UInt64) : Option EventPayload :=
  match name with
  | "cpu_sched" =>
      some (.cpuSched {
        prevCommHash := fnv1a64 (workerComm counter)
        nextCommHash := fnv1a64 (workerComm (counter + 1))
        latencyNs := asU64 (add (lit 1000) (mul (loadFactor F counter) (lit 8000)))
        cpuId := (counter % 8).toUInt32 })
  | "mem_pressure" =>
      let cycle := counter % 20
      some (.memPressure {
        pagesReclaimed := if cycle = 0 then 256 else if cycle = 5 then 64 else 0
        zone := 1 })
  | "net_io" =>
      let sinVal : F := sin (mul (ofNat counter.toNat) (lit (5 / 100)))
      some (.netIo {
        bytesTx := asU64 (add (lit 1000) (mul sinVal (lit 800)))
        bytesRx := asU64 (add (lit 1200) (mul sinVal (lit 900)))
        devNameHash := fnv1a64 (asciiBytes "eth0") })
  | "proc_lifecycle" =>
      let cycle := counter % 30
      -- the uid goes into the event as it is
      if cycle = 15 then
        some (.procLifecycle { commHash := fnv1a64 (asciiBytes "sh"), uidHash := 1000 })
      else if cycle = 28 then
        some (.procLifecycle { commHash := fnv1a64 (asciiBytes "cargo"), uidHash := 1000 })
      else none
  | _ => none

/-- `event` of a turn. -/
def simulatorEvent (name : String) (counter nowNs : UInt64) : Option RawEvent :=
  match simulatorPayload F name counter with
  | none => none
  | some payload =>
      match name with
      | "cpu_sched" => some { probe := .cpuSched, timestampNs := nowNs, payload := payload }
      | "mem_pressure" => some { probe := .memPressure, timestampNs := nowNs, payload := payload }
      | "net_io" => some { probe := .netIo, timestampNs := nowNs, payload := payload }
      | "proc_lifecycle" =>
          some { probe := .procLifecycle, timestampNs := nowNs, payload := payload }
      | _ => none

theorem simulatorEvent_payload (name : String) (counter nowNs : UInt64) :
    (simulatorEvent F name counter nowNs).map RawEvent.payload =
      simulatorPayload F name counter := by
  unfold simulatorEvent
  cases hpayload : simulatorPayload F name counter with
  | none => rfl
  | some payload =>
      unfold simulatorPayload at hpayload
      split at hpayload
      · rfl
      · rfl
      · rfl
      · rfl
      · cases hpayload

end Code

/-! ## The latencies of a simulator -/

section Latency

variable {K : Type} [Field K] [LinearOrder K] [IsStrictOrderedRing K] [FloorRing K]

/-- A cut never grows a value. -/
theorem asU64_le {value : K} {bound : ℕ} (h : value ≤ bound) :
    (asU64 value).toNat ≤ bound := by
  have hfloor : ⌊value⌋.toNat ≤ bound :=
    Int.toNat_le.mpr (Int.floor_le_iff.mpr (h.trans_lt (by simp)))
  calc (asU64 value).toNat
      = min ⌊value⌋.toNat (2 ^ 64 - 1) % 2 ^ 64 := UInt64.toNat_ofNat'
    _ ≤ min ⌊value⌋.toNat (2 ^ 64 - 1) := Nat.mod_le _ _
    _ ≤ bound := (min_le_left _ _).trans hfloor

/-- No scheduling latency of a simulator exceeds 9000 ns. -/
theorem latency_le_of_payload [Sine K] (hsin : ∀ x : K, -1 ≤ sin x ∧ sin x ≤ 1)
    {name : String} {counter : UInt64} {event : CpuSchedEvent}
    (h : simulatorPayload K name counter = some (.cpuSched event)) :
    event.latencyNs.toNat ≤ 9000 := by
  unfold simulatorPayload at h
  split at h
  · obtain rfl := EventPayload.cpuSched.inj (Option.some.inj h)
    refine asU64_le ?_
    have hload : loadFactor K counter ≤ 1 := by
      have hle := (hsin ((counter.toNat : K) * ((1 / 10 : ℚ) : K))).2
      simp only [loadFactor, exact_add, exact_mul, exact_lit, exact_ofNat]
      push_cast at hle ⊢
      linarith
    simp only [exact_add, exact_mul, exact_lit]
    push_cast
    linarith
  · cases h
  · cases h
  · simp only at h
    split at h
    · cases h
    · split at h <;> cases h
  · cases h

/-- The latency of a scheduling event is within a bound. -/
def LatencyWithin (bound : ℕ) (event : RawEvent) : Prop :=
  ∀ sched, event.payload = .cpuSched sched → sched.latencyNs.toNat ≤ bound

theorem LatencyWithin.of_sample {bound : ℕ} {event : RawEvent} {value : UInt64}
    (within : LatencyWithin bound event) (h : latencySample event = some value) :
    value.toNat ≤ bound := by
  unfold latencySample at h
  split at h
  · rename_i sched hpayload
    rw [← Option.some.inj h]
    exact within sched hpayload
  · cases h

theorem rawLatency_le {bound : ℕ} {events : List RawEvent}
    (h : ∀ event ∈ events, LatencyWithin bound event) :
    (Metric.cpuSchedLatencyP95.raw events : K) ≤ bound := by
  rw [Metric.raw, WindowTotals.cpuLatencies_ofEvents]
  by_cases hlength : 0 < (events.filterMap latencySample).length
  · rw [rawP95Latency_eq hlength, Nat.cast_le]
    have hmem := orderStatistic_mem (r := (· ≤ ·)) (quantile_index_lt (p := 95) (q := 100)
      (by decide) hlength)
    obtain ⟨event, hevent, hsample⟩ := List.mem_filterMap.mp hmem
    exact (h event hevent).of_sample hsample
  · rw [rawP95Latency, dif_neg hlength, exact_lit, Rat.cast_zero]
    exact Nat.cast_nonneg bound

/-- Latencies within a bound keep the average within it, and what is shown within the
normalised bound. -/
theorem confines_latency (bound : ℕ) (hbound : 1000 ≤ bound) :
    Tasks.Confines (F := K) .cpuSchedLatencyP95 (LatencyWithin bound) (· ≤ (bound : K))
      (· ≤ ((bound : K) - 1000) / 19000) where
  new windowMs := by
    have hzero : Metric.cpuSchedLatencyP95.ema (Aggregator.new windowMs : Aggregator K) = 0 :=
      Rat.cast_zero
    rw [hzero]
    exact Nat.cast_nonneg bound
  smooth aggregator haverage hevents := by
    have hraw : (Metric.cpuSchedLatencyP95.raw aggregator.currentWindowEvents : K) ≤ bound :=
      rawLatency_le hevents
    rw [Metric.ema_smooth, computeEma_exact, exact_lit]
    push_cast
    linarith
  value aggregator metrics haverage hmetrics := by
    have hvalue := Metric.value_of_metrics hmetrics .cpuSchedLatencyP95
    have hlow : (Metric.cpuSchedLatencyP95.low : K) = 1000 := by norm_num [Metric.low]
    have hhigh : (Metric.cpuSchedLatencyP95.high : K) = 20000 := by norm_num [Metric.high]
    have hcast : (1000 : K) ≤ bound := by exact_mod_cast hbound
    rw [exact_lit, exact_lit, hlow, hhigh, normalizeMinMax_exact (by norm_num)] at hvalue
    have hclamped : max (1000 : K) (min 20000 (Metric.cpuSchedLatencyP95.ema aggregator)) ≤
        bound := max_le hcast ((min_le_right _ _).trans haverage)
    rw [← Option.some.inj hvalue]
    have hwidth : (20000 : K) - 1000 = 19000 := by norm_num
    rw [hwidth]
    gcongr
  default := by
    have hcast : (1000 : K) ≤ bound := by exact_mod_cast hbound
    rw [Metric.value_default, exact_lit, Rat.cast_zero]
    exact div_nonneg (sub_nonneg.mpr hcast) (by norm_num)

end Latency

/-! ## A daemon with simulators -/

/-- The tasks, and the turns that each simulator has taken. -/
structure Simulation (ι F : Type) where
  counters : ι → UInt64
  tasks : Tasks ι F

/-- A simulator takes a turn, or another step of the tasks. -/
inductive SimulationLabel (ι F : Type) where
  /-- The interval of a simulator fires, at the given time. -/
  | turn (probe : ι) (nowNs : UInt64)
  | task (label : TasksLabel ι F)

namespace Simulation

section Steps

variable {ι F : Type}

/-- The daemon as `main` starts it. -/
def started [Float64 F] (kinds : ι → ProbeKind) (config : Config F) (db : Database F) :
    Simulation ι F where
  counters _ := 0
  tasks := .started kinds config db

/-- The tasks that `ProbeManager::start` spawns, one for each enabled name. -/
def startedKinds (ebpfFeature simulate : Bool) (loadFile : ℕ → Option Bpf)
    (enabledProbes : List String) (probe : Fin enabledProbes.length) : ProbeKind :=
  ((start ebpfFeature simulate loadFile (newProbes enabledProbes)).get
    (probe.cast (by simp [start, newProbes]))).2

theorem startedKinds_simulated {ebpfFeature simulate : Bool}
    (h : (ebpfFeature && !simulate) = false) (loadFile : ℕ → Option Bpf)
    (enabledProbes : List String) (probe : Fin enabledProbes.length) :
    startedKinds ebpfFeature simulate loadFile enabledProbes probe = .simulated := by
  simp [startedKinds, start, startProbe, bpfLoaded, h]

/-- Events come by themselves from the kernel only. -/
def comesFromKernel (kinds : ι → ProbeKind) : TasksLabel ι F → Bool
  | .probe (.generate probe _) => kinds probe == .ebpf
  | _ => true

variable [Float64 F] [Libm F] [Sine F] [DecidableEq ι] (names : ι → String)
  (kinds : ι → ProbeKind) (encode : OscBundle F → Option (List UInt8))

/-- One turn of a simulator up to the event. -/
def turn (simulation : Simulation ι F) (probe : ι) (nowNs : UInt64) :
    Option (Simulation ι F) :=
  match kinds probe, (simulation.tasks.probes probe).pc with
  | .simulated, .looping =>
      let counter := simulation.counters probe + 1
      let counters := Function.update simulation.counters probe counter
      match simulatorEvent F (names probe) counter nowNs with
      | none => some { simulation with counters := counters }
      | some event =>
          (simulation.tasks.step encode (.probe (.generate probe event))).map fun tasks =>
            { counters := counters, tasks := tasks }
  | _, _ => none

/-- One step of the daemon. -/
def step (simulation : Simulation ι F) : SimulationLabel ι F → Option (Simulation ι F)
  | .turn probe nowNs => turn names kinds encode simulation probe nowNs
  | .task label =>
      if comesFromKernel kinds label then
        (simulation.tasks.step encode label).map fun tasks =>
          { simulation with tasks := tasks }
      else none

end Steps

/-! ## The tasks of a simulated daemon -/

section View

variable {ι F : Type} [Float64 F] [Libm F] [Sine F] [DecidableEq ι] {names : ι → String}
  {kinds : ι → ProbeKind} {encode : OscBundle F → Option (List UInt8)}

/-- What the tasks see of a step: a turn is the event it makes, if it makes one. -/
def toTasks (names : ι → String) :
    Simulation ι F × SimulationLabel ι F → Option (TasksLabel ι F)
  | (simulation, .turn probe nowNs) =>
      (simulatorEvent F (names probe) (simulation.counters probe + 1) nowNs).map fun event =>
        .probe (.generate probe event)
  | (_, .task label) => some label

/-- What a turn does. -/
theorem turn_cases {simulation next : Simulation ι F} {probe : ι} {nowNs : UInt64}
    (h : turn names kinds encode simulation probe nowNs = some next) :
    kinds probe = .simulated ∧
      next.counters =
        Function.update simulation.counters probe (simulation.counters probe + 1) ∧
      ((simulatorEvent F (names probe) (simulation.counters probe + 1) nowNs = none ∧
          next.tasks = simulation.tasks) ∨
        ∃ event,
          simulatorEvent F (names probe) (simulation.counters probe + 1) nowNs = some event ∧
          simulation.tasks.step encode (.probe (.generate probe event)) = some next.tasks) := by
  unfold turn at h
  split at h
  · rename_i hkind hpc
    cases hevent : simulatorEvent F (names probe) (simulation.counters probe + 1) nowNs with
    | none =>
        simp only [hevent, Option.some.injEq] at h
        obtain rfl := h
        exact ⟨hkind, rfl, .inl ⟨rfl, rfl⟩⟩
    | some event =>
        simp only [hevent] at h
        obtain ⟨tasks, taken, rfl⟩ := Option.map_eq_some_iff.mp h
        exact ⟨hkind, rfl, .inr ⟨event, rfl, taken⟩⟩
  · cases h

theorem step_task {simulation next : Simulation ι F} {label : TasksLabel ι F}
    (h : step names kinds encode simulation (.task label) = some next) :
    comesFromKernel kinds label = true ∧
      simulation.tasks.step encode label = some next.tasks ∧
      next.counters = simulation.counters := by
  simp only [step] at h
  split at h
  · rename_i hkernel
    obtain ⟨tasks, taken, rfl⟩ := Option.map_eq_some_iff.mp h
    exact ⟨hkernel, taken, rfl⟩
  · cases h

/-- The tasks of a simulated daemon are the tasks. -/
theorem tasks_of_run {start final : Simulation ι F}
    {trace : List (Simulation ι F × SimulationLabel ι F)}
    (run : Run (step names kinds encode) start trace final) :
    Run (Tasks.step encode) start.tasks (Run.projectVisits tasks (toTasks names) trace)
      final.tasks := by
  refine run.projectedVisits ?_ ?_
  · intro simulation next label hhidden taken
    cases label with
    | turn probe nowNs =>
        have hnone := Option.map_eq_none_iff.mp hhidden
        obtain ⟨_, _, ⟨_, hsame⟩ | ⟨event, hsome, _⟩⟩ := turn_cases taken
        · exact hsame
        · rw [hnone] at hsome
          cases hsome
    | task label => cases hhidden
  · intro simulation next label image hshown taken
    cases label with
    | turn probe nowNs =>
        obtain ⟨event, hevent, rfl⟩ := Option.map_eq_some_iff.mp hshown
        obtain ⟨_, _, ⟨hnone, _⟩ | ⟨other, hsome, hgenerate⟩⟩ := turn_cases taken
        · rw [hnone] at hevent
          cases hevent
        · rw [hsome] at hevent
          cases hevent
          exact hgenerate
    | task label =>
        cases hshown
        exact (step_task taken).2.1

/-- What all events of the simulators have in common confines a metric in the whole daemon. -/
theorem confined_of_run {metric : Metric} {holds : RawEvent → Prop} {within shown : F → Prop}
    (confines : Tasks.Confines metric holds within shown)
    (hkinds : ∀ probe, kinds probe = .simulated)
    (hevents : ∀ probe counter nowNs event,
      simulatorEvent F (names probe) counter nowNs = some event → holds event)
    {config : Config F} {db : Database F} {final : Simulation ι F}
    {trace : List (Simulation ι F × SimulationLabel ι F)}
    (run : Run (step names kinds encode) (started kinds config db) trace final) :
    final.tasks.Confined metric holds within shown := by
  refine (Tasks.confined_of_run confines (tasks_of_run run) ?_).1
  intro visit hmem
  obtain ⟨⟨before, label⟩, htrace, himage⟩ := List.mem_filterMap.mp hmem
  obtain ⟨image, hshown, rfl⟩ := Option.map_eq_some_iff.mp himage
  cases label with
  | turn probe nowNs =>
      obtain ⟨event, hevent, rfl⟩ := Option.map_eq_some_iff.mp hshown
      exact hevents probe _ nowNs event hevent
  | task label =>
      cases hshown
      obtain ⟨_, _, next, _, _, taken, _⟩ := run.of_mem htrace
      have hkernel := (step_task taken).1
      cases image with
      | probe label =>
          cases label with
          | generate probe event => simp [comesFromKernel, hkinds] at hkernel
          | _ => trivial
      | _ => trivial

end View

section Loudness

variable {ι K : Type} [Field K] [LinearOrder K] [IsStrictOrderedRing K] [FloorRing K] [Libm K]
  [Sine K] [DecidableEq ι] {names : ι → String} {kinds : ι → ProbeKind}
  {encode : OscBundle K → Option (List UInt8)}

/-- A simulated daemon never shows more than 8/19 of the latency range, in `shared_state` and
in what any rule for the latency is applied to. -/
theorem simulated_latency (hsin : ∀ x : K, -1 ≤ sin x ∧ sin x ≤ 1)
    (hkinds : ∀ probe, kinds probe = .simulated) {config : Config K} {db : Database K}
    {trace : List (Simulation ι K × SimulationLabel ι K)} {final : Simulation ι K}
    (run : Run (step names kinds encode) (started kinds config db) trace final) :
    final.tasks.tapped.sharedState.value.metrics.cpuSchedLatencyP95 ≤ 8 / 19 ∧
      ∀ visit ∈ trace, ∀ snapshot params, visit.1.tasks.engine = .holding snapshot →
        mappingFrame visit.1.tasks.cells.mappingRules snapshot.item = .mapped params →
        ∀ rule ∈ visit.1.tasks.cells.mappingRules.value,
          rule.sourceMetric = "cpu.sched.latency_p95" →
          ∃ param ∈ params, param.oscAddress = rule.oscAddress ∧
            ∃ val, val ≤ 8 / 19 ∧ applyRule rule val = some param.value := by
  have hevents : ∀ probe counter nowNs event,
      simulatorEvent K (names probe) counter nowNs = some event → LatencyWithin 9000 event := by
    intro probe counter nowNs event hevent sched hsched
    have hpayload := simulatorEvent_payload K (names probe) counter nowNs
    rw [hevent, Option.map_some, hsched] at hpayload
    exact latency_le_of_payload hsin hpayload.symm
  have hbound : (((9000 : ℕ) : K) - 1000) / 19000 = 8 / 19 := by norm_num
  have hconfined : ∀ {trace final},
      Run (step names kinds encode) (started kinds config db) trace final →
        final.tasks.Confined .cpuSchedLatencyP95 (LatencyWithin 9000) (· ≤ ((9000 : ℕ) : K))
          (· ≤ 8 / 19) := by
    intro trace final run
    have hconfined := confined_of_run (confines_latency (K := K) 9000 (by decide))
      hkinds hevents run
    rwa [hbound] at hconfined
  refine ⟨(hconfined run).shared, ?_⟩
  intro visit hmem snapshot params hholding hframe rule hrule hsource
  obtain ⟨_, _, _, _, hfront, _, _⟩ := run.of_mem hmem
  refine (hconfined hfront).mapped hholding hframe hrule ?_
  rw [hsource]
  rfl

/-- `f64::sin` at the first turn of the simulator for scheduling. -/
instance : Sine ℚ where
  sin x := if x = 1 / 10 then 9983341664682815 / 100000000000000000 else 0

/-- The first event of the simulator goes into a window, and its snapshot to the engine. -/
def firstTurn : List (SimulationLabel (Fin 1) ℚ) :=
  [.turn 0 5, .task (.probe (.send 0)), .task .receive, .task .forward, .task .aggregate,
    .task (.tick 1000000), .task .publish, .task .offer, .task (.output .receiveSnapshot),
    .task (.output .readRules)]

/-- One simulated latency reaches `shared_state` and the engine. -/
theorem simulated_latency_first :
    ∃ trace final,
      Run (step ["cpu_sched"].get (startedKinds true true (fun _ => none) ["cpu_sched"])
          fun _ => none)
        (started (startedKinds true true (fun _ => none) ["cpu_sched"])
          (Config.default : Config ℚ) ⟨some .sqlite, ⟨[], []⟩⟩) trace final ∧
      final.tasks.tapped.spawned.length = 1 ∧ final.tasks.emissions = 1 ∧
      final.tasks.tapped.sharedState.value.metrics.cpuSchedLatencyP95 ≤ 8 / 19 := by
  have run : Run (step ["cpu_sched"].get
        (startedKinds true true (fun _ => none) ["cpu_sched"]) fun _ => none)
      (started (startedKinds true true (fun _ => none) ["cpu_sched"])
        (Config.default : Config ℚ) ⟨some .sqlite, ⟨[], []⟩⟩) _ _ :=
    execute_sound firstTurn rfl
  have hkinds := @startedKinds_simulated true true rfl (fun _ => none) ["cpu_sched"]
  refine ⟨_, _, run, rfl, rfl, (simulated_latency ?_ hkinds run).1⟩
  intro x
  unfold sin instSineRat
  simp only
  split <;> norm_num

end Loudness

end Simulation

end DaemonChoir.Conductor
