import DaemonChoir.Conductor.Simulator
import Mathlib.Data.List.Range
set_option autoImplicit false

/-!
# Conductor: the rhythm of the simulators

What a simulator has offered is a function of how many turns it has taken, whatever the other
tasks did in between: pages come every twentieth turn and five turns later, processes start
twice in thirty turns, and each simulated switch goes on from where the last one went to.
-/

namespace DaemonChoir.Conductor

open DaemonChoir.Common DaemonChoir.Foundation Float64

/-! ## Turn by turn -/

section Turns

variable (F : Type) [Float64 F] [Sine F]

/-- The events of the first turns, at the times of a clock. -/
def turnEvents (name : String) (clock : ℕ → UInt64) (turns : ℕ) : List RawEvent :=
  (List.range turns).flatMap fun k =>
    (simulatorEvent F name (UInt64.ofNat (k + 1)) (clock k)).toList

variable {F}

theorem turnEvents_succ (name : String) (clock : ℕ → UInt64) (turns : ℕ) :
    turnEvents F name clock (turns + 1) = turnEvents F name clock turns ++
      (simulatorEvent F name (UInt64.ofNat (turns + 1)) (clock turns)).toList := by
  rw [turnEvents, List.range_succ, List.flatMap_append, List.flatMap_singleton]
  rfl

theorem turnEvents_congr {name : String} {clock other : ℕ → UInt64} {turns : ℕ}
    (h : ∀ k < turns, clock k = other k) :
    turnEvents F name clock turns = turnEvents F name other turns := by
  refine List.flatMap_congr fun k hk => ?_
  rw [h k (List.mem_range.mp hk)]

theorem turnEvents_eq_map {name : String} {event : ℕ → RawEvent} {clock : ℕ → UInt64}
    (h : ∀ k, simulatorEvent F name (UInt64.ofNat (k + 1)) (clock k) = some (event k))
    (turns : ℕ) : turnEvents F name clock turns = (List.range turns).map event := by
  rw [List.map_eq_flatMap, turnEvents]
  refine List.flatMap_congr fun k _ => ?_
  rw [h k]
  rfl

theorem weightSum_append (metric : Metric) (front back : List RawEvent) :
    metric.weightSum (front ++ back) = metric.weightSum front + metric.weightSum back := by
  rw [Metric.weightSum, List.map_append, List.sum_append]
  rfl

theorem counter_mod_iff {turn : ℕ} (period phase : ℕ) (hturn : turn < 2 ^ 64)
    (hperiod : period < 2 ^ 64) (hphase : phase < 2 ^ 64) :
    UInt64.ofNat turn % UInt64.ofNat period = UInt64.ofNat phase ↔ turn % period = phase := by
  rw [← UInt64.toNat_inj, UInt64.toNat_mod, UInt64.toNat_ofNat_of_lt' hturn,
    UInt64.toNat_ofNat_of_lt' hperiod, UInt64.toNat_ofNat_of_lt' hphase]

/-- Two turns in twenty reclaim pages. -/
theorem reclaimed_of_turns (clock : ℕ → UInt64) {turns : ℕ} (hturns : turns < 2 ^ 64) :
    Metric.memReclaimPressure.weightSum (turnEvents F "mem_pressure" clock turns) =
      256 * (turns / 20) + 64 * ((turns + 15) / 20) := by
  induction turns with
  | zero => rfl
  | succ turns ih =>
      have hfirst : UInt64.ofNat (turns + 1) % 20 = 0 ↔ (turns + 1) % 20 = 0 :=
        counter_mod_iff 20 0 hturns (by decide) (by decide)
      have hsecond : UInt64.ofNat (turns + 1) % 20 = 5 ↔ (turns + 1) % 20 = 5 :=
        counter_mod_iff 20 5 hturns (by decide) (by decide)
      have hturn : Metric.memReclaimPressure.weightSum
          (simulatorEvent F "mem_pressure" (UInt64.ofNat (turns + 1)) (clock turns)).toList =
            if (turns + 1) % 20 = 0 then 256 else if (turns + 1) % 20 = 5 then 64 else 0 := by
        simp only [simulatorEvent, simulatorPayload, hfirst, hsecond, Option.toList_some,
          Metric.weightSum, List.map_singleton, List.sum_singleton, Metric.weight]
        split
        · rfl
        · split <;> rfl
      rw [turnEvents_succ, weightSum_append, ih (by omega), hturn]
      split
      · omega
      · split <;> omega

/-- Two turns in thirty start a process. -/
theorem execs_of_turns (clock : ℕ → UInt64) {turns : ℕ} (hturns : turns < 2 ^ 64) :
    (turnEvents F "proc_lifecycle" clock turns).length =
      (turns + 15) / 30 + (turns + 2) / 30 := by
  induction turns with
  | zero => rfl
  | succ turns ih =>
      have hfirst : UInt64.ofNat (turns + 1) % 30 = 15 ↔ (turns + 1) % 30 = 15 :=
        counter_mod_iff 30 15 hturns (by decide) (by decide)
      have hsecond : UInt64.ofNat (turns + 1) % 30 = 28 ↔ (turns + 1) % 30 = 28 :=
        counter_mod_iff 30 28 hturns (by decide) (by decide)
      have hturn : (simulatorEvent F "proc_lifecycle" (UInt64.ofNat (turns + 1))
          (clock turns)).toList.length =
            if (turns + 1) % 30 = 15 then 1 else if (turns + 1) % 30 = 28 then 1 else 0 := by
        by_cases hshell : (turns + 1) % 30 = 15
        · simp only [simulatorEvent, simulatorPayload, hfirst, hshell, if_true]
          rfl
        · by_cases hcargo : (turns + 1) % 30 = 28
          · simp only [simulatorEvent, simulatorPayload, hfirst, hsecond, hcargo, if_true]
            rfl
          · simp only [simulatorEvent, simulatorPayload, hfirst, hsecond, hshell, hcargo]
            rfl
      rw [turnEvents_succ, List.length_append, ih (by omega), hturn]
      split
      · omega
      · split <;> omega

/-- The second event goes on from the task that the first one switched to. -/
def GoesOn (first second : RawEvent) : Prop :=
  ∃ before after, first.payload = .cpuSched before ∧ second.payload = .cpuSched after ∧
    after.prevCommHash = before.nextCommHash

theorem switches_of_turns (clock : ℕ → UInt64) (turns : ℕ) :
    (turnEvents F "cpu_sched" clock turns).length = turns ∧
      (turnEvents F "cpu_sched" clock turns).IsChain GoesOn := by
  rw [turnEvents_eq_map (fun k => rfl) turns]
  refine ⟨by rw [List.length_map, List.length_range], ?_⟩
  rw [List.isChain_map, List.isChain_range]
  intro k _
  have hnext : UInt64.ofNat (k + 1 + 1) = UInt64.ofNat (k + 1) + 1 := UInt64.ofNat_add (k + 1) 1
  exact ⟨_, _, rfl, rfl, congrArg (fun counter => fnv1a64 (workerComm counter)) hnext⟩

theorem turnEvents_unknown {name : String}
    (hname : name ∉ ["cpu_sched", "mem_pressure", "net_io", "proc_lifecycle"])
    (clock : ℕ → UInt64) (turns : ℕ) : turnEvents F name clock turns = [] := by
  refine List.flatMap_eq_nil_iff.mpr fun k _ => ?_
  simp only [List.mem_cons, List.not_mem_nil, or_false, not_or] at hname
  obtain ⟨hsched, hmem, hnet, hproc⟩ := hname
  have hpayload : simulatorPayload F name (UInt64.ofNat (k + 1)) = none := by
    unfold simulatorPayload
    split
    · exact absurd rfl hsched
    · exact absurd rfl hmem
    · exact absurd rfl hnet
    · exact absurd rfl hproc
    · rfl
  rw [simulatorEvent, hpayload]
  rfl

end Turns

/-! ## In the daemon -/

namespace Simulation

variable {ι F : Type} [Float64 F] [Libm F] [Sine F] [DecidableEq ι] {names : ι → String}
  {kinds : ι → ProbeKind} {encode : OscBundle F → Option (List UInt8)}

/-- The event that a simulator makes in a step. -/
def madeBy (names : ι → String) (probe : ι) :
    Simulation ι F × SimulationLabel ι F → List RawEvent
  | (simulation, .turn turner nowNs) =>
      if turner = probe then
        (simulatorEvent F (names turner) (simulation.counters turner + 1) nowNs).toList
      else []
  | (_, .task _) => []

/-- The label is a turn of the simulator. -/
def turnOf (probe : ι) : SimulationLabel ι F → Bool
  | .turn turner _ => decide (turner = probe)
  | .task _ => false

/-- The turns of a simulator. -/
def turns (probe : ι) (trace : List (Simulation ι F × SimulationLabel ι F)) : ℕ :=
  trace.countP fun visit => turnOf probe visit.2

omit [Float64 F] [Libm F] [Sine F] in
theorem turns_append (probe : ι) (trace : List (Simulation ι F × SimulationLabel ι F))
    (visit : Simulation ι F × SimulationLabel ι F) :
    turns probe (trace ++ [visit]) =
      turns probe trace + if turnOf probe visit.2 then 1 else 0 := by
  rw [turns, List.countP_append, List.countP_singleton, ← turns]

/-- What a simulator has made depends on the number of its turns only. -/
theorem made_of_run {config : Config F} {db : Database F} {final : Simulation ι F}
    {trace : List (Simulation ι F × SimulationLabel ι F)}
    (run : Run (step names kinds encode) (started kinds config db) trace final) (probe : ι) :
    final.counters probe = UInt64.ofNat (turns probe trace) ∧
      ∃ clock, trace.flatMap (madeBy names probe) =
        turnEvents F (names probe) clock (turns probe trace) := by
  induction run with
  | nil => exact ⟨rfl, fun _ => 0, rfl⟩
  | @snoc trace simulation next label _ taken ih =>
      obtain ⟨hcounter, clock, hmade⟩ := ih
      rw [List.flatMap_append, List.flatMap_singleton, turns_append, hmade]
      cases label with
      | turn turner nowNs =>
          obtain ⟨_, hcounters, _⟩ := turn_cases taken
          by_cases hprobe : turner = probe
          · subst hprobe
            have hcount : simulation.counters turner + 1 =
                UInt64.ofNat (turns turner trace + 1) := by
              rw [hcounter, UInt64.ofNat_add]
              rfl
            rw [if_pos (by simp [turnOf])]
            refine ⟨by rw [hcounters, Function.update_self, hcount],
              Function.update clock (turns turner trace) nowNs, ?_⟩
            have hclock : ∀ k < turns turner trace,
                clock k = Function.update clock (turns turner trace) nowNs k :=
              fun k hk => (Function.update_of_ne hk.ne nowNs clock).symm
            rw [turnEvents_succ, Function.update_self, ← turnEvents_congr hclock, ← hcount,
              madeBy, if_pos rfl]
          · rw [if_neg (by simp [turnOf, hprobe]), hcounters,
              Function.update_of_ne (Ne.symm hprobe), Nat.add_zero, madeBy, if_neg hprobe,
              List.append_nil]
            exact ⟨hcounter, clock, rfl⟩
      | task label =>
          obtain ⟨_, _, hcounters⟩ := step_task taken
          rw [if_neg (by simp [turnOf]), hcounters, Nat.add_zero, madeBy, List.append_nil]
          exact ⟨hcounter, clock, rfl⟩

/-- However the other tasks come in between: after a number of turns a simulator has reported
so many pages or processes, one event for each turn, or nothing if its name is no probe. -/
theorem rhythm {config : Config F} {db : Database F} {final : Simulation ι F}
    {trace : List (Simulation ι F × SimulationLabel ι F)}
    (run : Run (step names kinds encode) (started kinds config db) trace final) (probe : ι)
    (hturns : turns probe trace < 2 ^ 64) :
    (names probe = "cpu_sched" →
      (trace.flatMap (madeBy names probe)).length = turns probe trace ∧
        (trace.flatMap (madeBy names probe)).IsChain GoesOn) ∧
    (names probe = "mem_pressure" →
      Metric.memReclaimPressure.weightSum (trace.flatMap (madeBy names probe)) =
        256 * (turns probe trace / 20) + 64 * ((turns probe trace + 15) / 20)) ∧
    (names probe = "net_io" →
      (trace.flatMap (madeBy names probe)).length = turns probe trace) ∧
    (names probe = "proc_lifecycle" →
      (trace.flatMap (madeBy names probe)).length =
        (turns probe trace + 15) / 30 + (turns probe trace + 2) / 30) ∧
    (names probe ∉ ["cpu_sched", "mem_pressure", "net_io", "proc_lifecycle"] →
      trace.flatMap (madeBy names probe) = []) := by
  obtain ⟨_, clock, hmade⟩ := made_of_run run probe
  rw [hmade]
  refine ⟨?_, ?_, ?_, ?_, ?_⟩
  · intro hname
    rw [hname]
    exact switches_of_turns clock _
  · intro hname
    rw [hname]
    exact reclaimed_of_turns clock hturns
  · intro hname
    rw [hname, turnEvents_eq_map (fun k => rfl), List.length_map, List.length_range]
  · intro hname
    rw [hname]
    exact execs_of_turns clock hturns
  · intro hname
    exact turnEvents_unknown hname clock _

/-- Two names, one of them no probe. -/
def twoNames : Bool → String
  | false => "mem_pressure"
  | true => "netio"

/-- A turn of the first simulator, and its event sent and counted. -/
def turnAndSend (nowNs : UInt64) : List (SimulationLabel Bool ℚ) :=
  [.turn false nowNs, .task (.probe (.send false)), .task (.probe (.account false)),
    .task (.probe (.account false))]

/-- Five turns of the first simulator, and one of the second. -/
def fiveTurns : List (SimulationLabel Bool ℚ) :=
  .turn true 7 :: [10, 20, 30, 40, 50].flatMap turnAndSend

/-- After five turns 64 pages are reclaimed; the misspelt probe reports nothing. -/
theorem rhythm_five :
    ∃ (trace : List (Simulation Bool ℚ × SimulationLabel Bool ℚ)) (final : Simulation Bool ℚ),
      Run (step twoNames (fun _ => .simulated) fun _ => none)
        (started (fun _ => .simulated) (Config.default : Config ℚ) ⟨some .sqlite, ⟨[], []⟩⟩)
        trace final ∧
      turns false trace = 5 ∧
      Metric.memReclaimPressure.weightSum (trace.flatMap (madeBy twoNames false)) = 64 ∧
      trace.flatMap (madeBy twoNames true) = [] := by
  have run : Run (step twoNames (fun _ => .simulated) fun _ => none)
      (started (fun _ => .simulated) (Config.default : Config ℚ) ⟨some .sqlite, ⟨[], []⟩⟩)
      _ _ := execute_sound fiveTurns rfl
  have hfalse := rhythm run false (by decide)
  have htrue := rhythm run true (by decide)
  exact ⟨_, _, run, rfl, hfalse.2.1 rfl, htrue.2.2.2.2 (by decide)⟩

end Simulation

end DaemonChoir.Conductor
