import DaemonChoir.Conductor.Ingest
import Mathlib.Data.Nat.ModEq
set_option autoImplicit false

/-!
# Conductor: the loss counter that every tick resets

A failed send is counted twice, in the probe's own `events_lost` and in
`cumulative_lost_events`, by two operations between which anything may happen; every tick
swaps the second counter for zero.  The probes' counters, the snapshots and the swapped
counter agree at every moment once the tasks between their two operations are counted.
-/

namespace DaemonChoir.Conductor

open DaemonChoir.Common DaemonChoir.Foundation Finset

namespace ProbeTask

/-- One loss is in `events_lost` and not yet in `cumulative_lost_events`. -/
def uncredited (task : ProbeTask) : Nat := if task.pc = .counting then 1 else 0

/-! ## What the operations do to the two counters -/

theorem generate_losses {task next : ProbeTask} {event : RawEvent}
    (h : task.generate event = some next) :
    next.eventsLost = task.eventsLost ∧ next.uncredited = task.uncredited := by
  unfold generate at h
  split at h
  · rename_i hpc
    cases h
    simp [uncredited, hpc]
  · cases h

theorem sent_losses {task : ProbeTask} {event : RawEvent} (answer : TrySend)
    (h : task.offered = some event) :
    (task.sent event answer).eventsLost = task.eventsLost ∧
      (task.sent event answer).uncredited = task.uncredited := by
  have hpc : task.pc ≠ .counting := by
    intro hpc
    simp [offered, hpc] at h
  cases answer with
  | ok => simp [sent, uncredited, hpc]
  | full => simp [sent, uncredited, hpc]
  | closed => cases hkind : task.kind <;> simp [sent, uncredited, hpc, hkind]

theorem leave_losses {task next : ProbeTask} {shutdown : Bool}
    (h : task.leave shutdown = some next) :
    next.eventsLost = task.eventsLost ∧ next.uncredited = task.uncredited := by
  unfold leave at h
  split at h
  · rename_i hpc
    split at h
    · cases h
      simp [uncredited, hpc]
    · cases h
  · cases h

/-- The first operation counts for the probe, the second for the window, the others
count nothing. -/
theorem account_losses {task next : ProbeTask} {cumulativeLost after : UInt64}
    (h : task.account cumulativeLost = some (next, after)) :
    (next.eventsLost = task.eventsLost + 1 ∧ after = cumulativeLost ∧
      next.uncredited = task.uncredited + 1) ∨
    (next.eventsLost = task.eventsLost ∧ after = cumulativeLost + 1 ∧
      next.uncredited + 1 = task.uncredited) ∨
    (next.eventsLost = task.eventsLost ∧ after = cumulativeLost ∧
      next.uncredited = task.uncredited) := by
  unfold account at h
  split at h
  · rename_i event hpc
    cases h
    exact .inr (.inr ⟨rfl, rfl, by simp [uncredited, hpc]⟩)
  · rename_i event hpc
    cases h
    exact .inr (.inr ⟨rfl, rfl, by simp [uncredited, hpc]⟩)
  · rename_i hpc
    cases h
    exact .inl ⟨rfl, rfl, by simp [uncredited, hpc]⟩
  · rename_i hpc
    cases h
    exact .inr (.inl ⟨rfl, rfl, by simp [uncredited, hpc]⟩)
  · cases h

end ProbeTask

namespace Ingest

section Books

variable {ι F : Type} [Fintype ι]

/-- What the probes have counted for themselves. -/
def lostByProbes (ingest : Ingest ι F) : Nat := ∑ i, (ingest.probes i).eventsLost.toNat

/-- The tasks between their two operations. -/
def uncredited (ingest : Ingest ι F) : Nat := ∑ i, (ingest.probes i).uncredited

/-- What the next tick reports, and what some probe is about to add to it. -/
def unreported (ingest : Ingest ι F) : Nat :=
  ingest.cumulativeLostEvents.toNat + ingest.uncredited

/-- The snapshot of a tick. -/
def produced [Float64 F] : Ingest ι F × IngestLabel ι → Option (StateSnapshot F)
  | (ingest, .tick nowUs _) =>
      (ingest.aggregator.tick nowUs ingest.cumulativeLostEvents).map Prod.snd
  | _ => none

/-- The snapshots produced over a trace. -/
def producedOver [Float64 F] (trace : List (Ingest ι F × IngestLabel ι)) :
    List (StateSnapshot F) :=
  trace.filterMap produced

/-- The sum of their `lost_events`. -/
def reportedLost [Float64 F] (trace : List (Ingest ι F × IngestLabel ι)) : Nat :=
  ((producedOver trace).map fun snapshot => snapshot.lostEvents.toNat).sum

end Books

/-! ## What a step does to the counters -/

section Steps

variable {ι F : Type}

theorem receive_frame {ingest next : Ingest ι F} (h : ingest.receive = some next) :
    next.probes = ingest.probes ∧
      next.cumulativeLostEvents = ingest.cumulativeLostEvents := by
  obtain ⟨_, ⟨_, _, _, rfl⟩ | ⟨_, rfl⟩⟩ := receive_cases h
  · exact ⟨rfl, rfl⟩
  · exact ⟨rfl, rfl⟩

theorem forward_frame {ingest next : Ingest ι F} (h : ingest.forward = some next) :
    next.probes = ingest.probes ∧
      next.cumulativeLostEvents = ingest.cumulativeLostEvents := by
  obtain ⟨_, _, _, _, _, ⟨_, rfl⟩ | ⟨_, rfl⟩⟩ := forward_cases h
  · exact ⟨rfl, rfl⟩
  · exact ⟨rfl, rfl⟩

theorem aggregate_frame {ingest next : Ingest ι F} (h : ingest.aggregate = some next) :
    next.probes = ingest.probes ∧
      next.cumulativeLostEvents = ingest.cumulativeLostEvents := by
  obtain ⟨_, ⟨_, _, _, rfl⟩ | ⟨_, rfl⟩⟩ := aggregate_cases h
  · exact ⟨rfl, rfl⟩
  · exact ⟨rfl, rfl⟩

/-- A tick leaves the probes alone, resets the counter and reports what it held, also
when the mapping engine is gone. -/
theorem tick_frame [Float64 F] {ingest next : Ingest ι F} {nowUs : UInt64}
    {mapper : TrySend} (h : ingest.tick nowUs mapper = some next) :
    next.probes = ingest.probes ∧ next.cumulativeLostEvents = 0 ∧
      ∃ snapshot, produced (ingest, .tick nowUs mapper) = some snapshot ∧
        snapshot.lostEvents = ingest.cumulativeLostEvents := by
  obtain ⟨metrics, _, htick⟩ := ingest.aggregator.tick_eq nowUs ingest.cumulativeLostEvents
  have hproduced : ∃ snapshot, produced (ingest, .tick nowUs mapper) = some snapshot ∧
      snapshot.lostEvents = ingest.cumulativeLostEvents := by
    simp [produced, htick]
  obtain ⟨_, ⟨_, rfl⟩ | ⟨_, rfl⟩⟩ := tick_cases h
  · exact ⟨rfl, rfl, hproduced⟩
  · exact ⟨rfl, rfl, hproduced⟩

theorem setProbe_losses [Fintype ι] [DecidableEq ι] (ingest : Ingest ι F) (probe : ι)
    {task : ProbeTask} (hlost : task.eventsLost = (ingest.probes probe).eventsLost)
    (huncredited : task.uncredited = (ingest.probes probe).uncredited) :
    (ingest.setProbe probe task).lostByProbes = ingest.lostByProbes ∧
      (ingest.setProbe probe task).uncredited = ingest.uncredited := by
  have hprobes := sum_component_update ingest.probes probe task fun t => t.eventsLost.toNat
  have hpending := sum_component_update ingest.probes probe task ProbeTask.uncredited
  simp only [hlost] at hprobes
  simp only [huncredited] at hpending
  exact ⟨Nat.add_right_cancel hprobes, Nat.add_right_cancel hpending⟩

/-- Whatever a step adds to the probes' counters it adds to what is still to be reported,
and whatever it reports it takes from there. -/
def LossesMove [Fintype ι] [Float64 F] (ingest : Ingest ι F) (label : IngestLabel ι)
    (next : Ingest ι F) : Prop :=
  ∃ fresh, next.lostByProbes ≡ ingest.lostByProbes + fresh [MOD 2 ^ 64] ∧
    next.unreported + reportedLost [(ingest, label)] ≡
      ingest.unreported + fresh [MOD 2 ^ 64]

theorem lossesMove_of_silent [Fintype ι] [Float64 F] {ingest next : Ingest ι F}
    {label : IngestLabel ι} (hprobes : next.lostByProbes = ingest.lostByProbes)
    (hpending : next.uncredited = ingest.uncredited)
    (hcumulative : next.cumulativeLostEvents = ingest.cumulativeLostEvents)
    (hsilent : produced (ingest, label) = none) : LossesMove ingest label next := by
  have hreported : reportedLost [(ingest, label)] = 0 := by
    simp [reportedLost, producedOver, hsilent]
  have hunreported : next.unreported = ingest.unreported := by
    rw [unreported, hpending, hcumulative, unreported]
  refine ⟨0, ?_, ?_⟩
  · rw [Nat.add_zero, hprobes]
  · rw [hunreported, hreported]

theorem lossesMove_of_frame [Fintype ι] [Float64 F] {ingest next : Ingest ι F}
    {label : IngestLabel ι} (hprobes : next.probes = ingest.probes)
    (hcumulative : next.cumulativeLostEvents = ingest.cumulativeLostEvents)
    (hsilent : produced (ingest, label) = none) : LossesMove ingest label next := by
  apply lossesMove_of_silent ?_ ?_ hcumulative hsilent
  · rw [lostByProbes, hprobes, lostByProbes]
  · rw [uncredited, hprobes, uncredited]

/-- The two operations of the accounting. -/
theorem account_lossesMove [Fintype ι] [DecidableEq ι] [Float64 F] {ingest : Ingest ι F}
    {probe : ι} {task : ProbeTask} {after : UInt64}
    (h : (ingest.probes probe).account ingest.cumulativeLostEvents = some (task, after)) :
    LossesMove ingest (.account probe)
      { ingest.setProbe probe task with cumulativeLostEvents := after } := by
  have hprobes := sum_component_update ingest.probes probe task fun t => t.eventsLost.toNat
  have hpending := sum_component_update ingest.probes probe task ProbeTask.uncredited
  have hreported : reportedLost [(ingest, IngestLabel.account probe)] = 0 := rfl
  unfold LossesMove lostByProbes unreported uncredited
  rw [hreported]
  simp only [setProbe]
  rcases ProbeTask.account_losses h with
    ⟨hlost, rfl, huncredited⟩ | ⟨hlost, rfl, huncredited⟩ | ⟨hlost, rfl, huncredited⟩
  · rw [hlost, UInt64.toNat_add] at hprobes
    have hone : (1 : UInt64).toNat = 1 := rfl
    refine ⟨1, ?_, ?_⟩
    · unfold Nat.ModEq
      omega
    · unfold Nat.ModEq
      omega
  · have hone : (1 : UInt64).toNat = 1 := rfl
    rw [hlost] at hprobes
    rw [UInt64.toNat_add]
    refine ⟨0, ?_, ?_⟩
    · unfold Nat.ModEq
      omega
    · unfold Nat.ModEq
      omega
  · rw [hlost] at hprobes
    refine ⟨0, ?_, ?_⟩
    · unfold Nat.ModEq
      omega
    · unfold Nat.ModEq
      omega

/-- Every step moves losses on. -/
theorem step_lossesMove [Fintype ι] [DecidableEq ι] [Float64 F] {ingest next : Ingest ι F}
    {label : IngestLabel ι} (taken : ingest.step label = some next) :
    LossesMove ingest label next := by
  cases label with
  | generate probe event =>
      obtain ⟨task, htask, rfl⟩ := Option.map_eq_some_iff.mp taken
      obtain ⟨hlost, huncredited⟩ := ProbeTask.generate_losses htask
      obtain ⟨hprobes, hpending⟩ := ingest.setProbe_losses probe hlost huncredited
      exact lossesMove_of_silent hprobes hpending rfl rfl
  | send probe =>
      obtain ⟨event, answer, after, hoffered, _, rfl⟩ := send_cases taken
      obtain ⟨hlost, huncredited⟩ := ProbeTask.sent_losses answer hoffered
      obtain ⟨hprobes, hpending⟩ := ingest.setProbe_losses probe hlost huncredited
      exact lossesMove_of_silent hprobes hpending rfl rfl
  | account probe =>
      obtain ⟨⟨task, after⟩, htask, rfl⟩ := Option.map_eq_some_iff.mp taken
      exact account_lossesMove htask
  | leave probe =>
      obtain ⟨task, htask, rfl⟩ := Option.map_eq_some_iff.mp taken
      obtain ⟨hlost, huncredited⟩ := ProbeTask.leave_losses htask
      obtain ⟨hprobes, hpending⟩ := ingest.setProbe_losses probe hlost huncredited
      exact lossesMove_of_silent hprobes hpending rfl rfl
  | shutdown =>
      cases taken
      exact lossesMove_of_silent rfl rfl rfl rfl
  | receive =>
      obtain ⟨hprobes, hcumulative⟩ := receive_frame taken
      exact lossesMove_of_frame hprobes hcumulative rfl
  | forward =>
      obtain ⟨hprobes, hcumulative⟩ := forward_frame taken
      exact lossesMove_of_frame hprobes hcumulative rfl
  | aggregate =>
      obtain ⟨hprobes, hcumulative⟩ := aggregate_frame taken
      exact lossesMove_of_frame hprobes hcumulative rfl
  | tick nowUs mapper =>
      obtain ⟨hprobes, hcumulative, snapshot, hproduced, hlost⟩ := tick_frame taken
      have hreported : reportedLost [(ingest, .tick nowUs mapper)] =
          ingest.cumulativeLostEvents.toNat := by
        simp [reportedLost, producedOver, hproduced, hlost]
      refine ⟨0, ?_, ?_⟩
      · rw [lostByProbes, hprobes, Nat.add_zero, lostByProbes]
      · unfold Nat.ModEq unreported uncredited
        rw [hprobes, hcumulative, hreported, UInt64.toNat_zero]
        omega

end Steps

/-! ## Runs -/

section Runs

variable {ι F : Type} [Fintype ι] [DecidableEq ι] [Float64 F]
  {kinds : ι → ProbeKind} {windowMs : UInt64}
  {trace : List (Ingest ι F × IngestLabel ι)} {final : Ingest ι F}

omit [Fintype ι] [DecidableEq ι] in
theorem reportedLost_append_singleton (visit : Ingest ι F × IngestLabel ι) :
    reportedLost (trace ++ [visit]) = reportedLost trace + reportedLost [visit] := by
  simp [reportedLost, producedOver]

/-- In every reachable state the losses that the probes have counted are those of the
snapshots produced so far, those that the next tick will report, and one for each task
between its two operations. -/
theorem losses_survive_swap (run : Run step (started kinds windowMs) trace final) :
    ∑ i, (final.probes i).eventsLost.toNat ≡
      ((producedOver trace).map fun snapshot => snapshot.lostEvents.toNat).sum +
        final.cumulativeLostEvents.toNat +
        (univ.filter fun i => (final.probes i).pc = .counting).card [MOD 2 ^ 64] := by
  have hcounting : (univ.filter fun i => (final.probes i).pc = .counting).card =
      final.uncredited := by
    rw [Finset.card_filter]
    rfl
  have hbalance : final.lostByProbes ≡ reportedLost trace + final.unreported
      [MOD 2 ^ 64] := by
    clear hcounting
    induction run with
    | nil => simp [lostByProbes, reportedLost, producedOver, unreported, uncredited, started,
        ProbeTask.spawned, ProbeTask.uncredited, Nat.ModEq]
    | @snoc trace before next label _ taken ih =>
        obtain ⟨fresh, hprobes, hunreported⟩ := step_lossesMove taken
        rw [reportedLost_append_singleton]
        calc next.lostByProbes
            ≡ before.lostByProbes + fresh [MOD 2 ^ 64] := hprobes
          _ ≡ reportedLost trace + before.unreported + fresh [MOD 2 ^ 64] :=
            ih.add_right fresh
          _ = reportedLost trace + (before.unreported + fresh) := Nat.add_assoc _ _ _
          _ ≡ reportedLost trace + (next.unreported + reportedLost [(before, label)])
              [MOD 2 ^ 64] := hunreported.symm.add_left _
          _ = reportedLost trace + reportedLost [(before, label)] + next.unreported := by
            omega
  rw [hcounting, Nat.add_assoc]
  exact hbalance

end Runs

/-- Some event. -/
def droppedEvent : RawEvent :=
  { probe := .memPressure, timestampNs := 0
    payload := .memPressure { pagesReclaimed := 1, zone := 0 } }

/-- The probe has put so many events into the raw channel, and nothing was lost so far. -/
structure Backlog (ingest : Ingest Unit ℚ) (n : ℕ) : Prop where
  probe : (ingest.probes ()).pc = .looping
  eventsLost : (ingest.probes ()).eventsLost = 0
  cumulative : ingest.cumulativeLostEvents = 0
  queue : ingest.rawEvents.queue.length = n
  receiver : ingest.rawEvents.receiverGone = false
  aggregating : ingest.aggregating = true

/-- The four steps of the probe for one event. -/
def offerOne : List (IngestLabel Unit) :=
  [.generate () droppedEvent, .send (), .account (), .account ()]

/-- As long as there is room the backlog grows. -/
theorem backlog_succ {ingest : Ingest Unit ℚ} {n : ℕ} (backlog : Backlog ingest n)
    (hroom : n < eventCapacity) :
    ∃ trace next, Run step ingest trace next ∧ producedOver trace = [] ∧
      Backlog next (n + 1) := by
  rcases hsend : ingest.rawEvents.trySend droppedEvent with ⟨answer, after⟩
  have hqueue := backlog.queue
  rcases Channel.trySend_cases hsend with
    ⟨rfl, _, _, happended, hgone, _⟩ | ⟨_, _, hfull, _⟩ | ⟨_, hgone, _⟩
  · have run : Run step ingest _ _ := execute_sound offerOne <| by
      simp only [offerOne, Foundation.execute, step, ProbeTask.generate, backlog.probe,
        Option.map_some, send, Function.update_self, ProbeTask.offered, setProbe, hsend,
        ProbeTask.sent, ProbeTask.account]
      rfl
    refine ⟨_, _, run, rfl, ?_⟩
    exact {
      probe := by simp
      eventsLost := by simpa using backlog.eventsLost
      cumulative := backlog.cumulative
      queue := by simp [happended, hqueue]
      receiver := hgone
      aggregating := backlog.aggregating }
  · unfold Channel.IsFull at hfull
    omega
  · rw [backlog.receiver] at hgone
    cases hgone

/-- With nobody receiving, any number of events up to the capacity stays in the channel. -/
theorem backlog_of_le (n : ℕ) (hn : n ≤ eventCapacity) :
    ∃ trace ingest, Run step (started (fun _ => .simulated) 50) trace ingest ∧
      producedOver trace = [] ∧ Backlog ingest n := by
  induction n with
  | zero => exact ⟨[], _, .nil, rfl, ⟨rfl, rfl, rfl, rfl, rfl, rfl⟩⟩
  | succ n ih =>
      obtain ⟨trace, middle, run, hquiet, backlog⟩ := ih (by omega)
      obtain ⟨more, next, last, hsilent, hnext⟩ := backlog_succ backlog (by omega)
      refine ⟨trace ++ more, next, run.append last, ?_, hnext⟩
      unfold producedOver at hquiet hsilent ⊢
      rw [List.filterMap_append, hquiet, hsilent, List.append_nil]

/-- The event that meets the full channel is reported by the next snapshot. -/
theorem reported_of_full {ingest : Ingest Unit ℚ} (backlog : Backlog ingest eventCapacity) :
    ∃ trace next snapshot, Run step ingest trace next ∧ producedOver trace = [snapshot] ∧
      snapshot.lostEvents = 1 ∧ (next.probes ()).eventsLost = 1 ∧
      next.cumulativeLostEvents = 0 := by
  rcases hsend : ingest.rawEvents.trySend droppedEvent with ⟨answer, after⟩
  have hqueue := backlog.queue
  rcases Channel.trySend_cases hsend with
    ⟨_, _, hroom, _⟩ | ⟨rfl, _, _, rfl⟩ | ⟨_, hgone, _⟩
  · omega
  · obtain ⟨ticked, htick, hreported⟩ : ∃ ticked,
        ingest.aggregator.tick 50000 (0 + 1) = some ticked ∧ ticked.2.lostEvents = 1 := by
      obtain ⟨metrics, _, htick⟩ := ingest.aggregator.tick_eq 50000 (0 + 1)
      exact ⟨_, htick, rfl⟩
    have run : Run step ingest _ _ := execute_sound (offerOne ++ [.tick 50000 .ok]) <| by
      simp only [offerOne, List.cons_append, List.nil_append, Foundation.execute, step,
        ProbeTask.generate, backlog.probe, Option.map_some, send, Function.update_self,
        ProbeTask.offered, setProbe, hsend, ProbeTask.sent, ProbeTask.account, tick,
        backlog.aggregating, backlog.cumulative, if_true, htick]
      rfl
    refine ⟨_, _, ticked.2, run, ?_, hreported, ?_, rfl⟩
    · simp only [producedOver, List.filterMap_cons, List.filterMap_nil, produced, htick,
        Option.map_some]
    · simp [backlog.eventsLost]
  · rw [backlog.receiver] at hgone
    cases hgone

/-- A drop on a full channel is swapped into a snapshot. -/
theorem losses_survive_swap_full :
    ∃ (trace : List (Ingest Unit ℚ × IngestLabel Unit)) (final : Ingest Unit ℚ)
        (snapshot : StateSnapshot ℚ),
      Run step (started (fun _ => .simulated) 50) trace final ∧
        producedOver trace = [snapshot] ∧ snapshot.lostEvents = 1 ∧
        (final.probes ()).eventsLost = 1 ∧ final.cumulativeLostEvents = 0 ∧
        ∑ i, (final.probes i).eventsLost.toNat ≡
          ((producedOver trace).map fun snapshot => snapshot.lostEvents.toNat).sum +
            final.cumulativeLostEvents.toNat +
            (univ.filter fun i => (final.probes i).pc = .counting).card [MOD 2 ^ 64] := by
  obtain ⟨trace, middle, run, hquiet, backlog⟩ := backlog_of_le eventCapacity (Nat.le_refl _)
  obtain ⟨more, final, snapshot, last, hproduced, hreported, hlost, hswapped⟩ :=
    reported_of_full backlog
  refine ⟨trace ++ more, final, snapshot, run.append last, ?_, hreported, hlost, hswapped,
    losses_survive_swap (run.append last)⟩
  unfold producedOver at hquiet hproduced ⊢
  rw [List.filterMap_append, hquiet, hproduced, List.nil_append]

end Ingest

end DaemonChoir.Conductor
