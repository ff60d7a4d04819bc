import DaemonChoir.Conductor.OscOutput
import DaemonChoir.Conductor.Wiring
set_option autoImplicit false

/-!
# Conductor: the parts as views of the whole

The tasks up to the aggregator, the loops with their storage, and the tasks behind the
aggregator each have a model of their own, in which the rest of the daemon is whatever
comes from outside.  A run of all tasks is a run of each of these models, so what holds of
every run of a part holds of the daemon.

Each view forgets some fields and some steps.  A step that the view does not show leaves it
alone; a step that it shows is a step of the part, under the label that carries what the
rest of the daemon has answered (`tappedLabel`, `deliveryLabel`, `ingestLabel`).  The
general rule for such views is `Run.project` of `Foundation.Run`, and it carries runs over,
not only single steps.

One end of a stream is an exception on the way from the probes to the window: when the
engine has panicked, the aggregator leaves its loop at an offer, which `Ingest` does not
know.  Up to that step a run of all tasks is a run of `Ingest`.
-/

namespace DaemonChoir.Conductor

open DaemonChoir.Common DaemonChoir.Foundation

namespace Tasks

/-! ## What a step is in each part -/

section Labels

variable {ι F : Type}

/-- What a receive answers to the task. -/
def answered {capacity : ℕ} {α : Type} : Received capacity α → Option α
  | .item value _ => some value
  | _ => none

/-- A step as the loops and their storage see it. -/
def tappedLabel : Tasks ι F × TasksLabel ι F → Option TappedLabel
  | (tasks, .receive) => some (.receive (answered tasks.rawEvents.recv))
  | (tasks, .forward) =>
      match tasks.tapped.consumer with
      | .forwarding event => some (.forward (tasks.aggEvents.trySend event).1)
      | _ => none
  | (tasks, .aggregate) => some (.aggregate (answered tasks.aggEvents.recv))
  | (tasks, .tick nowUs) => some (.tick nowUs tasks.cumulativeLostEvents)
  | (_, .publish) => some .publish
  | (tasks, .offer) =>
      match tasks.tapped.pc with
      | .forwarding snapshot =>
          some (.offer (tasks.snapshots.trySend ⟨tasks.emissions, snapshot⟩).1)
      | _ => none
  | (_, .tap) => some .tap
  | (_, .store label) => some label
  | _ => none

/-- A step as the tasks behind the aggregator see it. -/
def deliveryLabel : Tasks ι F × TasksLabel ι F → Option (DeliveryLabel F)
  | (tasks, .aggregate) => (answered tasks.aggEvents.recv).map .push
  | (tasks, .tick nowUs) => some (.tick nowUs tasks.cumulativeLostEvents)
  | (_, .offer) => some .emit
  | (_, .output label) => some label
  | _ => none

/-- A step as the tasks up to the aggregator see it, while the engine is there. -/
def ingestLabel : Tasks ι F × TasksLabel ι F → Option (IngestLabel ι)
  | (_, .probe label) => some label
  | (_, .receive) => some .receive
  | (_, .forward) => some .forward
  | (_, .aggregate) => some .aggregate
  | (_, .tick nowUs) => some (.tick nowUs .ok)
  | _ => none

end Labels

section Views

variable {ι F : Type} [Float64 F] [Libm F] [DecidableEq ι]
  {encode : OscBundle F → Option (List UInt8)} {tasks next : Tasks ι F}
  {label : TasksLabel ι F}

/-! ### Storage -/

/-- The loops and their storage take the step, or nothing happens to them. -/
theorem tapped_step (taken : tasks.step encode label = some next) :
    Run.Simulates tapped tappedLabel Tapped.step tasks next label := by
  cases step_moves taken with
  | probe => exact .inl ⟨rfl, rfl⟩
  | output => exact .inl ⟨rfl, rfl⟩
  | stored label tapped hlabel hstep => exact .inr ⟨label, rfl, hstep⟩
  | received event rest hconsumer hrecv =>
      refine .inr ⟨.receive (some event), by simp [tappedLabel, hrecv, answered], ?_⟩
      simp [Tapped.step, Tapped.receive, hconsumer, RingbufConsumer.received]
  | rawEnded hconsumer hrecv =>
      refine .inr ⟨.receive none, by simp [tappedLabel, hrecv, answered], ?_⟩
      simp [Tapped.step, Tapped.receive, hconsumer, RingbufConsumer.received]
  | forwarded event answer after hconsumer hsend hopen =>
      refine .inr ⟨.forward answer, by simp [tappedLabel, hconsumer, hsend], ?_⟩
      cases answer with
      | closed => exact absurd rfl hopen
      | _ => simp [Tapped.step, Tapped.forward, hconsumer, RingbufConsumer.forwarded]
  | aggregatorGone event after hconsumer hsend =>
      refine .inr ⟨.forward .closed, by simp [tappedLabel, hconsumer, hsend], ?_⟩
      simp [Tapped.step, Tapped.forward, hconsumer, RingbufConsumer.forwarded]
  | pushed event rest hpc hrecv =>
      refine .inr ⟨.aggregate (some event), by simp [tappedLabel, hrecv, answered], ?_⟩
      simp [Tapped.step, Tapped.aggregate, hpc]
  | aggEnded hpc hrecv =>
      refine .inr ⟨.aggregate none, by simp [tappedLabel, hrecv, answered], ?_⟩
      simp [Tapped.step, Tapped.aggregate, hpc]
  | ticked nowUs window snapshot hpc hcompute =>
      refine .inr ⟨.tick nowUs tasks.cumulativeLostEvents, rfl, ?_⟩
      simp [Tapped.step, Tapped.tick, hpc, hcompute]
  | published snapshot hpc =>
      refine .inr ⟨.publish, rfl, ?_⟩
      simp [Tapped.step, Tapped.publish, hpc]
  | offered snapshot answer after hpc hsend hopen =>
      refine .inr ⟨.offer answer, by simp [tappedLabel, hpc, hsend], ?_⟩
      cases answer with
      | closed => exact absurd rfl hopen
      | _ => simp [Tapped.step, Tapped.offer, hpc]
  | engineGone snapshot after hpc hsend =>
      refine .inr ⟨.offer .closed, by simp [tappedLabel, hpc, hsend], ?_⟩
      simp [Tapped.step, Tapped.offer, hpc]
  | tapped snapshot hpc =>
      refine .inr ⟨.tap, rfl, ?_⟩
      simp [Tapped.step, Tapped.tap, hpc]

/-! ### The tasks behind the aggregator -/

omit [Libm F] in
theorem tick_of_compute {aggregator window : Aggregator F} {nowUs lostEventsDelta : UInt64}
    {snapshot : StateSnapshot F}
    (h : aggregator.compute nowUs lostEventsDelta = some (window, snapshot)) :
    aggregator.tick nowUs lostEventsDelta = some (window.clear, snapshot) ∧
      window.clear = aggregator.advance := by
  obtain ⟨metrics, _, htick⟩ := aggregator.tick_eq nowUs lostEventsDelta
  rw [Aggregator.compute, htick] at h
  obtain ⟨rfl, rfl⟩ := Prod.mk.inj (Option.some.inj h)
  exact ⟨htick, rfl⟩

/-- The tasks behind the aggregator take the step, or nothing happens to them. -/
theorem delivery_step (wired : tasks.Wired) (taken : tasks.step encode label = some next) :
    Run.Simulates delivery deliveryLabel (Delivery.step encode) tasks next label := by
  cases step_moves taken with
  | probe => exact .inl ⟨rfl, rfl⟩
  | received => exact .inl ⟨rfl, rfl⟩
  | rawEnded => exact .inl ⟨rfl, rfl⟩
  | forwarded => exact .inl ⟨rfl, rfl⟩
  | aggregatorGone => exact .inl ⟨rfl, rfl⟩
  | pushed event rest hpc hrecv =>
      refine .inr ⟨.push event, by simp [deliveryLabel, hrecv, answered], ?_⟩
      simp [Delivery.step, Delivery.push, delivery, settledAggregator, ticking, hpc,
        AggregatorPc.isStopped]
  | aggEnded hpc hrecv =>
      -- the consumer would have to be gone before the aggregator
      have hstopped := wired.consumer (wired.aggSenders.mp (Channel.recv_ended_iff.mp hrecv).2)
      rw [hpc] at hstopped
      cases hstopped
  | ticked nowUs window snapshot hpc hcompute =>
      refine .inr ⟨.tick nowUs tasks.cumulativeLostEvents, rfl, ?_⟩
      obtain ⟨htick, _⟩ := tick_of_compute hcompute
      simp [Delivery.step, Delivery.tick, delivery, settledAggregator, ticking, hpc, htick,
        AggregatorPc.isStopped]
  | published snapshot hpc =>
      refine .inl ⟨rfl, ?_⟩
      simp [delivery, settledAggregator, ticking, hpc, AggregatorPc.isStopped]
  | offered snapshot answer after hpc hsend hopen =>
      refine .inr ⟨.emit, rfl, ?_⟩
      cases answer with
      | closed => exact absurd rfl hopen
      | _ =>
          simp [Delivery.step, Delivery.emit, delivery, settledAggregator, ticking, hpc, hsend,
            AggregatorPc.isStopped]
  | engineGone snapshot after hpc hsend =>
      refine .inr ⟨.emit, rfl, ?_⟩
      obtain ⟨hnot, _⟩ | ⟨hnot, _⟩ | ⟨_, _, rfl⟩ := Channel.trySend_cases hsend
      · cases hnot
      · cases hnot
      · simp [Delivery.step, Delivery.emit, delivery, settledAggregator, ticking, hpc, hsend,
          Tapped.stopAggregator, AggregatorPc.isStopped]
  | tapped snapshot hpc =>
      refine .inl ⟨rfl, ?_⟩
      simp [delivery, settledAggregator, ticking, hpc, AggregatorPc.isStopped]
  | stored label tapped hlabel hstep =>
      obtain ⟨_, haggregator, hpc, _⟩ := store_loops hlabel hstep
      refine .inl ⟨rfl, ?_⟩
      simp [delivery, settledAggregator, ticking, haggregator, hpc]
  | output label delivery hlabel hstep =>
      refine .inr ⟨label, rfl, ?_⟩
      rw [delivery_setOutput hlabel hstep]
      exact hstep

/-! ### The tasks up to the aggregator -/

/-- The engine does not come back. -/
theorem engine_of_step (taken : tasks.step encode label = some next)
    (hnext : next.engine ≠ .stopped) : tasks.engine ≠ .stopped := by
  intro hengine
  apply hnext
  cases step_moves taken with
  | output label delivery hlabel hstep =>
      have hstopped : tasks.delivery.engine = .stopped := hengine
      show delivery.engine = .stopped
      cases Delivery.step_moves hstep with
      | held snapshot rest hrunning => simp [hrunning] at hstopped
      | snapshotsEnded => rfl
      | rulesPoisoned snapshot hrunning => simp [hrunning] at hstopped
      | mapPanicked => rfl
      | mapped snapshot params hrunning => simp [hrunning] at hstopped
      | sendOk params after hrunning => simp [hrunning] at hstopped
      | sendFull params hrunning => simp [hrunning] at hstopped
      | sendClosed => rfl
      | _ => exact hengine
  | _ => exact hengine

omit [Libm F] in
/-- What a probe task did is seen by the tasks up to the aggregator as it did it. -/
theorem ingest_setProbes {ingest : Ingest ι F} {label : IngestLabel ι}
    (hlabel : label.movesProbe = true) (taken : tasks.ingest.step label = some ingest) :
    (tasks.setProbes ingest).ingest = ingest := by
  cases label with
  | generate probe event =>
      obtain ⟨task, _, rfl⟩ := Option.map_eq_some_iff.mp taken
      rfl
  | send probe =>
      obtain ⟨event, answer, channel, _, _, rfl⟩ := Ingest.send_cases taken
      rfl
  | account probe =>
      obtain ⟨books, _, rfl⟩ := Option.map_eq_some_iff.mp taken
      rfl
  | leave probe =>
      obtain ⟨task, _, rfl⟩ := Option.map_eq_some_iff.mp taken
      rfl
  | shutdown =>
      cases taken
      rfl
  | _ => cases hlabel

/-- While the engine is there, the tasks up to the aggregator take the step, or nothing
happens to them. -/
theorem ingest_step (wired : tasks.Wired) (hengine : next.engine ≠ .stopped)
    (taken : tasks.step encode label = some next) :
    Run.Simulates ingest ingestLabel Ingest.step tasks next label := by
  cases step_moves taken with
  | probe label ingest hlabel hstep =>
      refine .inr ⟨label, rfl, ?_⟩
      rw [ingest_setProbes hlabel hstep]
      exact hstep
  | received event rest hconsumer hrecv =>
      refine .inr ⟨.receive, rfl, ?_⟩
      simp [Ingest.step, Ingest.receive, ingest, hconsumer, hrecv, RingbufConsumer.received,
        settledAggregator]
  | rawEnded hconsumer hrecv =>
      have hgone := (Channel.recv_ended_iff.mp hrecv).2
      rw [wired.rawSenders] at hgone
      cases hgone
  | forwarded event answer after hconsumer hsend hopen =>
      refine .inr ⟨.forward, rfl, ?_⟩
      cases answer with
      | closed => exact absurd rfl hopen
      | _ =>
          simp [Ingest.step, Ingest.forward, ingest, hconsumer, hsend,
            RingbufConsumer.forwarded, settledAggregator]
  | aggregatorGone event after hconsumer hsend =>
      have hstopped := wired.aggReceiver.mp ((Channel.trySend_closed_iff hsend).mp rfl)
      have hgone : tasks.delivery.aggregating = false := by simp [delivery, hstopped]
      exact absurd (wired.output.aggregator hgone) hengine
  | pushed event rest hpc hrecv =>
      refine .inr ⟨.aggregate, rfl, ?_⟩
      simp [Ingest.step, Ingest.aggregate, ingest, hrecv, settledAggregator, hpc,
        AggregatorPc.isStopped]
  | aggEnded hpc hrecv =>
      have hstopped := wired.consumer (wired.aggSenders.mp (Channel.recv_ended_iff.mp hrecv).2)
      rw [hpc] at hstopped
      cases hstopped
  | ticked nowUs window snapshot hpc hcompute =>
      refine .inr ⟨.tick nowUs .ok, rfl, ?_⟩
      obtain ⟨htick, _⟩ := tick_of_compute hcompute
      simp [Ingest.step, Ingest.tick, ingest, settledAggregator, hpc, htick,
        AggregatorPc.isStopped]
  | published snapshot hpc =>
      refine .inl ⟨rfl, ?_⟩
      simp [ingest, settledAggregator, hpc, AggregatorPc.isStopped]
  | offered snapshot answer after hpc hsend hopen =>
      refine .inl ⟨rfl, ?_⟩
      simp [ingest, settledAggregator, hpc, AggregatorPc.isStopped]
  | engineGone snapshot after hpc hsend =>
      have hgone := wired.output.snapshotsReceiver.mp ((Channel.trySend_closed_iff hsend).mp rfl)
      exact absurd hgone hengine
  | tapped snapshot hpc =>
      refine .inl ⟨rfl, ?_⟩
      simp [ingest, settledAggregator, hpc, AggregatorPc.isStopped]
  | stored label tapped hlabel hstep =>
      obtain ⟨hconsumer, haggregator, hpc, _⟩ := store_loops hlabel hstep
      refine .inl ⟨rfl, ?_⟩
      simp [ingest, settledAggregator, hconsumer, haggregator, hpc]
  | output label delivery hlabel hstep =>
      exact .inl ⟨rfl, rfl⟩

/-! ## Runs -/

/-- A run of all tasks is, seen from each part, a run of the model of that part; from the
tasks up to the aggregator as long as the engine is there. -/
theorem projects {kinds : ι → ProbeKind} {config : Config F} {db : Database F}
    {trace : List (Tasks ι F × TasksLabel ι F)} {final : Tasks ι F}
    (run : Run (step encode) (started kinds config db) trace final) :
    Run Tapped.step (.started config.daemon.windowMs db (some (.empty _ _)))
        (Run.projectVisits tapped tappedLabel trace) final.tapped ∧
      Run (Delivery.step encode) (.started config)
        (Run.projectVisits delivery deliveryLabel trace) final.delivery ∧
      (final.engine ≠ .stopped →
        Run Ingest.step (.started kinds config.daemon.windowMs)
          (Run.projectVisits ingest ingestLabel trace) final.ingest) := by
  have hwired := wired_started kinds config db
  have htapped : Run Tapped.step (tapped (started kinds config db))
      (Run.projectVisits tapped tappedLabel trace) (tapped final) :=
    (run.simulated_within Wired (fun _ => True) Wired.step (fun _ _ => trivial)
      (fun _ _ taken => tapped_step taken) hwired trivial).2
  have hdelivery : Run (Delivery.step encode) (delivery (started kinds config db))
      (Run.projectVisits delivery deliveryLabel trace) (delivery final) :=
    (run.simulated_within Wired (fun _ => True) Wired.step (fun _ _ => trivial)
      (fun wired _ taken => delivery_step wired taken) hwired trivial).2
  refine ⟨htapped, hdelivery, fun hengine => ?_⟩
  have hingest : Run Ingest.step (ingest (started kinds config db))
      (Run.projectVisits ingest ingestLabel trace) (ingest final) :=
    (run.simulated_within Wired (fun tasks => tasks.engine ≠ .stopped) Wired.step
      engine_of_step (fun wired hnext taken => ingest_step wired hnext taken) hwired
      hengine).2
  exact hingest

end Views

/-- One simulator, one rule, one backend and an empty database. -/
def oneProbe : Tasks Unit Ieee :=
  started (fun _ => .simulated) Delivery.oneRule ⟨some .sqlite, ⟨[], []⟩⟩

/-- An event goes into a window, and the snapshot of it to the backend. -/
def eventSent : List (TasksLabel Unit Ieee) :=
  [.probe (.generate () Tapped.sentEvent), .probe (.send ()), .receive, .forward, .aggregate,
    .tick 1000000, .publish, .offer, .output .receiveSnapshot, .output .readRules,
    .output .sendParams, .output .receiveParams, .output .readBackends,
    .output (.stamp ⟨1001000000⟩), .output .offer, .output (.sendTo true), .output .credit]

/-- All three parts see the event that was sent. -/
theorem projects_eventSent :
    ∃ trace final, Run (step Delivery.encodeZeros) oneProbe trace final ∧
      final.tapped.spawned = [Tapped.sentEvent] ∧ final.oscMetrics = ⟨1, 1⟩ ∧
      Run Tapped.step (.started 50 ⟨some .sqlite, ⟨[], []⟩⟩ (some (.empty _ _)))
        (Run.projectVisits tapped tappedLabel trace) final.tapped ∧
      Run (Delivery.step Delivery.encodeZeros) (.started Delivery.oneRule)
        (Run.projectVisits delivery deliveryLabel trace) final.delivery ∧
      Run Ingest.step (.started (fun _ => .simulated) 50)
        (Run.projectVisits ingest ingestLabel trace) final.ingest := by
  have run : Run (step Delivery.encodeZeros) oneProbe _ _ := execute_sound eventSent rfl
  obtain ⟨htapped, hdelivery, hingest⟩ := projects run
  exact ⟨_, _, run, rfl, rfl, htapped, hdelivery, hingest fun hstopped => by cases hstopped⟩

end Tasks

end DaemonChoir.Conductor
