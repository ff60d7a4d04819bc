import DaemonChoir.Conductor.MappingPanic
import DaemonChoir.Conductor.TaskViews
set_option autoImplicit false

/-!
# Conductor: what a panic of the mapping engine takes along

Every loop of the pipeline is left only because a neighbour is gone, so all of them go back
to one cause: a panic of the mapping engine.  Nothing restarts a task and the control API
goes on serving, so what it shows of the pipeline is frozen soon after.

Before the panic everything is intact: by induction over the run, a loop is left only when
the one behind it has been left (`Excused`), and the chain of causes ends at the engine.
After it, an offer of the aggregator finds the engine gone and ends that loop, the consumer
follows at its next send, and the simulators at theirs.  What is still published is one
snapshot at most, and a bundle is made only of a list that the dispatcher held or had in
its channel when the engine panicked.

Nothing here says that a panic is likely.  `MappingPanic` says which rule lists and which
snapshots lead to one.
-/

namespace DaemonChoir.Conductor

open DaemonChoir.Common DaemonChoir.Foundation

/-! ## When a simulator leaves its loop -/

namespace ProbeTask

/-- A probe task is never turned into one of the other kind, and a simulator leaves its loop
on shutdown or on a closed channel. -/
structure Leaves (task next : ProbeTask) (shutdown closed : Bool) : Prop where
  kind : next.kind = task.kind
  cause : next.pc = .stopped → task.pc = .stopped ∨ task.kind = .ebpf ∨ shutdown = true ∨
    closed = true

theorem leaves_generate {task next : ProbeTask} {event : RawEvent} {shutdown closed : Bool}
    (h : task.generate event = some next) : Leaves task next shutdown closed := by
  unfold generate at h
  split at h
  · cases h
    exact ⟨rfl, fun hstopped => by cases hstopped⟩
  · cases h

theorem leaves_sent (task : ProbeTask) (event : RawEvent) (answer : TrySend)
    (shutdown : Bool) :
    Leaves task (task.sent event answer) shutdown (decide (answer = .closed)) := by
  cases answer with
  | ok => exact ⟨rfl, fun hstopped => by cases hstopped⟩
  | full => exact ⟨rfl, fun hstopped => by cases hstopped⟩
  | closed =>
      cases hkind : task.kind with
      | simulated => exact ⟨by simp [sent, hkind], fun _ => by simp⟩
      | ebpf => exact ⟨by simp [sent, hkind], fun _ => by simp⟩

theorem leaves_account {task next : ProbeTask} {cumulativeLost after : UInt64}
    {shutdown closed : Bool} (h : task.account cumulativeLost = some (next, after)) :
    Leaves task next shutdown closed := by
  unfold account at h
  split at h <;> cases h <;> exact ⟨rfl, fun hstopped => by cases hstopped⟩

theorem leaves_leave {task next : ProbeTask} {shutdown closed : Bool}
    (h : task.leave shutdown = some next) : Leaves task next shutdown closed := by
  unfold leave at h
  split at h
  · split at h
    · rename_i hcause
      cases h
      refine ⟨rfl, fun _ => ?_⟩
      simp only [Bool.or_eq_true, beq_iff_eq] at hcause
      rcases hcause with hshutdown | hkind
      · exact .inr (.inr (.inl hshutdown))
      · exact .inr (.inl hkind)
    · cases h
  · cases h

end ProbeTask

namespace Tasks

/-! ## The one cause -/

section Cause

variable {ι F : Type}

/-- No loop of the pipeline was left. -/
structure Intact (tasks : Tasks ι F) : Prop where
  consumer : tasks.tapped.consumer ≠ .stopped
  aggregator : tasks.tapped.pc.isStopped = false
  engine : tasks.engine ≠ .stopped
  dispatcher : tasks.dispatcher ≠ .stopped
  writer : ∀ channel, tasks.tapped.dbTx = some channel → channel.receiverGone = false

/-- A simulator that has left its loop was told to, or the consumer has left its own. -/
def Excused (tasks : Tasks ι F) : Prop :=
  ∀ i, (tasks.probes i).kind = .simulated → (tasks.probes i).pc = .stopped →
    tasks.shutdown = true ∨ tasks.tapped.consumer = .stopped

theorem Excused.of_probes {tasks next : Tasks ι F} (excused : tasks.Excused)
    (hprobes : next.probes = tasks.probes) (hshutdown : next.shutdown = tasks.shutdown)
    (hconsumer : tasks.tapped.consumer = .stopped → next.tapped.consumer = .stopped) :
    next.Excused := by
  intro i hkind hstopped
  rw [hprobes] at hkind hstopped
  rw [hshutdown]
  exact (excused i hkind hstopped).imp_right hconsumer

variable [Float64 F]

theorem excused_started (kinds : ι → ProbeKind) (config : Config F) (db : Database F) :
    (started kinds config db).Excused := by
  intro i _ hstopped
  cases hstopped

variable [Libm F]

/-- The engine maps a snapshot and panics. -/
def Panics (visit : Tasks ι F × TasksLabel ι F) : Prop :=
  visit.2 = .output .readRules ∧ ∃ snapshot, visit.1.engine = .holding snapshot ∧
    mappingFrame visit.1.cells.mappingRules snapshot.item = .panicked

variable [DecidableEq ι] {encode : OscBundle F → Option (List UInt8)}
  {tasks next : Tasks ι F} {label : TasksLabel ι F}

/-- The engine leaves its loop by a panic only: it would have to be gone already for either
of its neighbours to be gone. -/
theorem engine_stopped_iff (wired : tasks.Wired) (hengine : tasks.engine ≠ .stopped)
    (taken : tasks.step encode label = some next) :
    next.engine = .stopped ↔ Panics (tasks, label) := by
  constructor
  · intro hstopped
    cases step_moves taken with
    | output label delivery hlabel hstep =>
        have hgone : delivery.engine = .stopped := hstopped
        cases label with
        | receiveSnapshot =>
            cases Delivery.step_moves hstep with
            | held => cases hgone
            | snapshotsEnded hrunning hended =>
                have hsenders := (Channel.recv_ended_iff.mp hended).2
                have haggregator := wired.output.snapshotsSenders.mp hsenders
                exact absurd (wired.output.aggregator haggregator) hengine
        | readRules =>
            have hstep' := hstep
            simp only [Delivery.step, Delivery.readRules] at hstep'
            split at hstep'
            · rename_i snapshot hholding
              split at hstep'
              · cases hstep'
                cases hgone
              · rename_i hpanicked
                exact ⟨rfl, snapshot, hholding, hpanicked⟩
              · cases hstep'
                cases hgone
            · cases hstep'
        | sendParams =>
            cases Delivery.step_moves hstep with
            | sendOk => cases hgone
            | sendFull => exact absurd hgone (by simp)
            | sendClosed params hrunning hreceiver =>
                have hdispatcher := wired.output.paramsReceiver.mp hreceiver
                exact absurd (wired.output.dispatcher hdispatcher) hengine
        | push => cases hlabel
        | tick => cases hlabel
        | emit => cases hlabel
        | _ =>
            cases Delivery.step_moves hstep <;> exact absurd hgone hengine
    | _ => exact absurd hstopped hengine
  · intro hpanics
    obtain ⟨hlabel, snapshot, hholding, hpanicked⟩ := hpanics
    simp only at hlabel hholding hpanicked
    subst hlabel
    have hstep : tasks.delivery.step encode .readRules = some tasks.delivery.stopEngine := by
      simp [Delivery.step, Delivery.readRules, delivery, hholding, hpanicked]
    simp only [step, DeliveryLabel.movesOutput, if_true, hstep, Option.map_some,
      Option.some.injEq] at taken
    rw [← taken]
    rfl

omit [Libm F] in
/-- A probe task moves alone; a closed channel is one without its consumer. -/
theorem probe_leaves {ingest after : Ingest ι F} {label : IngestLabel ι}
    (hlabel : label.movesProbe = true) (taken : ingest.step label = some after) (i : ι) :
    (ingest.shutdown = true → after.shutdown = true) ∧
      ProbeTask.Leaves (ingest.probes i) (after.probes i) after.shutdown
        ingest.rawEvents.receiverGone := by
  have hstay : ∀ shutdown closed : Bool,
      ProbeTask.Leaves (ingest.probes i) (ingest.probes i) shutdown closed :=
    fun _ _ => ⟨rfl, Or.inl⟩
  -- of the probes only the one that moves has changed
  have hupdate : ∀ (probe : ι) (task : ProbeTask) (shutdown closed : Bool),
      ProbeTask.Leaves (ingest.probes probe) task shutdown closed →
        ProbeTask.Leaves (ingest.probes i) (Function.update ingest.probes probe task i)
          shutdown closed := by
    intro probe task shutdown closed hmoved
    by_cases hi : i = probe
    · subst hi
      rw [Function.update_self]
      exact hmoved
    · rw [Function.update_of_ne hi]
      exact hstay _ _
  cases label with
  | generate probe event =>
      obtain ⟨task, hgenerate, rfl⟩ := Option.map_eq_some_iff.mp taken
      exact ⟨id, hupdate _ _ _ _ (ProbeTask.leaves_generate hgenerate)⟩
  | send probe =>
      obtain ⟨event, answer, channel, _, hsend, rfl⟩ := Ingest.send_cases taken
      refine ⟨id, hupdate _ _ _ _ ?_⟩
      have hclosed : decide (answer = .closed) = ingest.rawEvents.receiverGone := by
        rw [Bool.eq_iff_iff, decide_eq_true_iff]
        exact Channel.trySend_closed_iff hsend
      rw [← hclosed]
      exact ProbeTask.leaves_sent _ event answer _
  | account probe =>
      obtain ⟨books, haccount, rfl⟩ := Option.map_eq_some_iff.mp taken
      exact ⟨id, hupdate _ _ _ _ (ProbeTask.leaves_account haccount)⟩
  | leave probe =>
      obtain ⟨task, hleave, rfl⟩ := Option.map_eq_some_iff.mp taken
      exact ⟨id, hupdate _ _ _ _ (ProbeTask.leaves_leave hleave)⟩
  | shutdown =>
      cases taken
      exact ⟨fun _ => rfl, hstay _ _⟩
  | _ => cases hlabel

theorem Excused.step (wired : tasks.Wired) (excused : tasks.Excused)
    (taken : tasks.step encode label = some next) : next.Excused := by
  cases step_moves taken with
  | probe label ingest hlabel hstep =>
      intro i hkind hstopped
      obtain ⟨hshutdown, hleaves⟩ := probe_leaves hlabel hstep i
      have hbefore : (tasks.probes i).kind = .simulated := hleaves.kind.symm.trans hkind
      rcases hleaves.cause hstopped with hpc | hebpf | hshut | hclosed
      · exact (excused i hbefore hpc).imp_left hshutdown
      · rw [show (tasks.ingest.probes i).kind = .simulated from hbefore] at hebpf
        cases hebpf
      · exact .inl hshut
      · exact .inr (wired.rawReceiver.mp hclosed)
  | received event rest hconsumer =>
      exact excused.of_probes rfl rfl fun hstopped => by simp [hconsumer] at hstopped
  | rawEnded => exact excused.of_probes rfl rfl fun _ => rfl
  | forwarded event answer after hconsumer =>
      exact excused.of_probes rfl rfl fun hstopped => by simp [hconsumer] at hstopped
  | aggregatorGone => exact excused.of_probes rfl rfl fun _ => rfl
  | stored label tapped hlabel hstep =>
      obtain ⟨hconsumer, _⟩ := store_loops hlabel hstep
      exact excused.of_probes rfl rfl fun hstopped => hconsumer.trans hstopped
  | _ => exact excused.of_probes rfl rfl id

variable {kinds : ι → ProbeKind} {config : Config F} {db : Database F}
  {trace : List (Tasks ι F × TasksLabel ι F)} {final : Tasks ι F}

theorem excused_of_run (run : Run (step encode) (started kinds config db) trace final) :
    final.Excused :=
  (run.state_invariant (fun tasks => tasks.Wired ∧ tasks.Excused)
    ⟨wired_started kinds config db, excused_started kinds config db⟩
    fun both taken => ⟨both.1.step taken, both.2.step both.1 taken⟩).2

/-- The engine has left its loop exactly when it has panicked in the run. -/
theorem engine_stopped_of_run
    (run : Run (step encode) (started kinds config db) trace final) :
    final.engine = .stopped ↔ ∃ visit ∈ trace, Panics visit := by
  induction run with
  | nil => simp [started]
  | @snoc trace before next label earlier taken ih =>
      have hvisits : (∃ visit ∈ trace ++ [(before, label)], Panics visit) ↔
          (∃ visit ∈ trace, Panics visit) ∨ Panics (before, label) := by
        simp only [List.mem_append, List.mem_singleton, or_and_right, exists_or,
          exists_eq_left]
      rw [hvisits, ← ih]
      by_cases hengine : before.engine = .stopped
      · have hnext : next.engine = .stopped :=
          Classical.byContradiction fun hrunning => engine_of_step taken hrunning hengine
        simp [hengine, hnext]
      · rw [engine_stopped_iff (wired_of_run earlier) hengine taken]
        simp [hengine]

/-- No loop is left before that of the engine. -/
theorem intact_of_engine (run : Run (step encode) (started kinds config db) trace final)
    (hengine : final.engine ≠ .stopped) : final.Intact := by
  have wired := wired_of_run run
  have haggregator : final.tapped.pc.isStopped = false := by
    cases hstopped : final.tapped.pc.isStopped with
    | false => rfl
    | true =>
        have hgone : final.delivery.aggregating = false := by simp [delivery, hstopped]
        exact absurd (wired.output.aggregator hgone) hengine
  exact {
    consumer := by
      intro hstopped
      have hgone := wired.consumer hstopped
      rw [haggregator] at hgone
      cases hgone
    aggregator := haggregator
    engine := hengine
    dispatcher := fun hstopped => hengine (wired.output.dispatcher hstopped)
    writer := by
      intro channel hchannel
      cases hreceiver : channel.receiverGone with
      | false => rfl
      | true =>
          have hgone := wired.dbReceiver channel hchannel hreceiver
          rw [haggregator] at hgone
          cases hgone }

theorem shutdown_of_simulator
    (run : Run (step encode) (started kinds config db) trace final)
    (hengine : final.engine ≠ .stopped) {i : ι} (hkind : (final.probes i).kind = .simulated)
    (hstopped : (final.probes i).pc = .stopped) : final.shutdown = true :=
  (excused_of_run run i hkind hstopped).resolve_right (intact_of_engine run hengine).consumer

/-- The first snapshot is mapped. -/
def untilPanic : List (TasksLabel Bool Ieee) :=
  [.tick 1000000, .publish, .offer, .output .receiveSnapshot, .output .readRules]

end Cause

/-! ## What still comes out of the daemon -/

section Aftermath

variable {ι F : Type}

/-- A snapshot is written to `shared_state`. -/
def publishes : Tasks ι F × TasksLabel ι F → ℕ
  | (_, .publish) => 1
  | _ => 0

/-- A bundle is made. -/
def bundles : Tasks ι F × TasksLabel ι F → ℕ
  | (_, .output (.stamp _)) => 1
  | _ => 0

/-- How often an aggregator without an engine can still publish. -/
def publishable (tasks : Tasks ι F) : ℕ :=
  match tasks.tapped.pc with
  | .selecting | .publishing _ | .tapping _ => 1
  | .forwarding _ | .stopped => 0

/-- How many bundles a dispatcher without an engine can still make: one of each parameter
list in its channel, and one of the list it holds. -/
def bundleable (tasks : Tasks ι F) : ℕ :=
  tasks.mappedParams.queue.length + tasks.dispatcher.taken.toList.length

theorem publishable_le (tasks : Tasks ι F) : tasks.publishable ≤ 1 := by
  unfold publishable
  cases tasks.tapped.pc <;> simp

variable [Float64 F] [Libm F] [DecidableEq ι] {encode : OscBundle F → Option (List UInt8)}
  {tasks next : Tasks ι F} {label : TasksLabel ι F}

/-- The engine is gone. -/
def Orphaned (tasks : Tasks ι F) : Prop := tasks.Wired ∧ tasks.engine = .stopped

theorem Orphaned.step (orphaned : tasks.Orphaned)
    (taken : tasks.step encode label = some next) : next.Orphaned :=
  ⟨orphaned.1.step taken,
    Classical.byContradiction fun hrunning => engine_of_step taken hrunning orphaned.2⟩

/-- The next offer finds the engine gone, so there is one more tick to publish at most. -/
theorem Orphaned.publishes (orphaned : tasks.Orphaned)
    (taken : tasks.step encode label = some next) :
    next.publishable + publishes (tasks, label) ≤ tasks.publishable := by
  cases step_moves taken with
  | aggEnded hpc => simp [publishable, Tasks.publishes, hpc, Tapped.stopAggregator]
  | ticked nowUs window snapshot hpc => simp [publishable, Tasks.publishes, hpc]
  | published snapshot hpc => simp [publishable, Tasks.publishes, hpc]
  | offered snapshot answer after hpc hsend hopen =>
      have hgone := orphaned.1.output.snapshotsReceiver.mpr orphaned.2
      exact absurd ((Channel.trySend_closed_iff hsend).mpr hgone) hopen
  | engineGone snapshot after hpc =>
      simp [publishable, Tasks.publishes, hpc, Tapped.stopAggregator]
  | tapped snapshot hpc => simp [publishable, Tasks.publishes, hpc]
  | stored label tapped hlabel hstep =>
      obtain ⟨_, _, hpc, _⟩ := store_loops hlabel hstep
      simp [publishable, Tasks.publishes, hpc]
  | _ => exact Nat.le_refl _

/-- Every bundle takes a parameter list that was there before. -/
theorem Orphaned.bundles (orphaned : tasks.Orphaned)
    (taken : tasks.step encode label = some next) :
    next.bundleable + bundles (tasks, label) ≤ tasks.bundleable := by
  cases step_moves taken with
  | output label delivery hlabel hstep =>
      have hengine : tasks.delivery.engine = .stopped := orphaned.2
      show delivery.mappedParams.queue.length + delivery.dispatcher.taken.toList.length +
          Tasks.bundles (tasks, .output label) ≤
        tasks.delivery.mappedParams.queue.length + tasks.delivery.dispatcher.taken.toList.length
      cases Delivery.step_moves hstep with
      | held snapshot rest hrunning => simp [hrunning] at hengine
      | snapshotsEnded hrunning => simp [hrunning] at hengine
      | rulesPoisoned snapshot hrunning => simp [hrunning] at hengine
      | mapPanicked snapshot hrunning => simp [hrunning] at hengine
      | mapped snapshot params hrunning => simp [hrunning] at hengine
      | sendOk params after hrunning => simp [hrunning] at hengine
      | sendFull params hrunning => simp [hrunning] at hengine
      | sendClosed params hrunning => simp [hrunning] at hengine
      | receiveEmpty params rest hdispatcher hqueue =>
          simp [Tasks.bundles, hdispatcher, hqueue]
      | receiveFilled params rest hdispatcher hqueue =>
          simp [Tasks.bundles, hdispatcher, hqueue, OscDispatcher.taken]
      | paramsEnded hdispatcher => simp [Tasks.bundles, hdispatcher, OscDispatcher.taken]
      | backendsPoisoned params hdispatcher =>
          simp [Tasks.bundles, hdispatcher, OscDispatcher.taken]
      | stamping params hdispatcher => simp [Tasks.bundles, hdispatcher, OscDispatcher.taken]
      | encodeFailed now params backends hdispatcher =>
          simp [Tasks.bundles, hdispatcher, OscDispatcher.taken]
      | stamped now params backends packet hdispatcher =>
          simp [Tasks.bundles, hdispatcher, OscDispatcher.taken]
      | offered origin packet backend rest hdispatcher =>
          simp [Tasks.bundles, hdispatcher, OscDispatcher.taken]
      | sendToOk origin packet backend rest hdispatcher =>
          simp [Tasks.bundles, hdispatcher, OscDispatcher.taken]
      | sendToErr origin packet backend rest hdispatcher =>
          simp [Tasks.bundles, hdispatcher, OscDispatcher.taken]
      | credited origin packet rest hdispatcher =>
          simp [Tasks.bundles, hdispatcher, OscDispatcher.taken]
      | clockRead nowUs origin packet hdispatcher =>
          simp [Tasks.bundles, hdispatcher, OscDispatcher.taken]
      | loadNone origin nowUs hdispatcher =>
          simp [Tasks.bundles, hdispatcher, OscDispatcher.taken]
      | loadSome origin nowUs ms hdispatcher =>
          simp [Tasks.bundles, hdispatcher, OscDispatcher.taken]
      | recorded operation rest hdispatcher =>
          cases rest <;> simp [Tasks.bundles, hdispatcher, OscDispatcher.taken]
      | written => exact Nat.le_refl _
      | _ => cases hlabel
  | _ => exact Nat.le_refl _

/-- Nobody writes `shared_state` once the aggregator has left its loop. -/
theorem sharedState_of_stopped (hstopped : tasks.tapped.pc = .stopped)
    (taken : tasks.step encode label = some next) :
    next.tapped.pc = .stopped ∧ next.tapped.sharedState = tasks.tapped.sharedState := by
  cases step_moves taken with
  | aggEnded hpc => simp [hpc] at hstopped
  | ticked nowUs window snapshot hpc => simp [hpc] at hstopped
  | published snapshot hpc => simp [hpc] at hstopped
  | offered snapshot answer after hpc => simp [hpc] at hstopped
  | engineGone snapshot after hpc => simp [hpc] at hstopped
  | tapped snapshot hpc => simp [hpc] at hstopped
  | pushed event rest hpc => simp [hpc] at hstopped
  | stored label tapped hlabel hstep =>
      obtain ⟨_, _, hpc, hshared⟩ := store_loops hlabel hstep
      exact ⟨hpc.trans hstopped, hshared⟩
  | _ => exact ⟨hstopped, rfl⟩

/-- After the engine has panicked at most one more snapshot is published, and bundles are
made of the parameter lists under way only.  What `GET /v1/state` shows once the aggregator
has left its loop it shows for good, so that it never turns stale. -/
theorem aftermath {kinds : ι → ProbeKind} {config : Config F} {db : Database F}
    {front back : List (Tasks ι F × TasksLabel ι F)} {visit : Tasks ι F × TasksLabel ι F}
    {final : Tasks ι F}
    (run : Run (step encode) (started kinds config db) (front ++ visit :: back) final)
    (hpanics : Panics visit) :
    total Tasks.publishes back ≤ 1 ∧
      total Tasks.bundles back ≤ visit.1.bundleable ∧
      ∀ later ∈ back, later.1.tapped.pc = .stopped →
        final.tapped.sharedState = later.1.tapped.sharedState := by
  obtain ⟨hfront, next, taken, hback⟩ := run.at_visit
  have hthrough := hfront.snoc taken
  have hengine : next.engine = .stopped :=
    (engine_stopped_of_run hthrough).mpr ⟨visit, by simp, hpanics⟩
  have orphaned : next.Orphaned := ⟨wired_of_run hthrough, hengine⟩
  refine ⟨?_, ?_, ?_⟩
  · have hspent := hback.spends Orphaned publishable Tasks.publishes orphaned
      Orphaned.step Orphaned.publishes
    have hbudget := next.publishable_le
    omega
  · have hspent := hback.spends Orphaned bundleable Tasks.bundles orphaned
      Orphaned.step Orphaned.bundles
    have hsame : next.bundleable = visit.1.bundleable := by
      obtain ⟨hlabel, snapshot, hholding, hpanicked⟩ := hpanics
      have hstep : visit.1.delivery.step encode .readRules =
          some visit.1.delivery.stopEngine := by
        simp [Delivery.step, Delivery.readRules, delivery, hholding, hpanicked]
      rw [hlabel] at taken
      simp only [step, DeliveryLabel.movesOutput, if_true, hstep, Option.map_some,
        Option.some.injEq] at taken
      rw [← taken]
      rfl
    rw [hsame] at hspent
    omega
  · intro later hlater hstopped
    obtain ⟨_, rest, after, _, _, hstep, hrest⟩ := hback.of_mem hlater
    obtain ⟨hpc, hshared⟩ := sharedState_of_stopped hstopped hstep
    have hfrozen := hrest.state_invariant
      (fun tasks => tasks.tapped.pc = .stopped ∧
        tasks.tapped.sharedState = after.tapped.sharedState)
      ⟨hpc, rfl⟩ fun both taken => by
        obtain ⟨hnext, hsame⟩ := sharedState_of_stopped both.1 taken
        exact ⟨hnext, hsame.trans both.2⟩
    exact hfrozen.2.trans hshared

/-- A first snapshot is mapped before the rules are reloaded with NaN as a bound, and the
second one panics while the dispatcher holds the parameters of the first. -/
def untilSecondPanic : List (TasksLabel Unit Ieee) :=
  [.tick 1000000, .publish, .offer, .output .receiveSnapshot, .output .readRules,
    .output .sendParams, .tap,
    .output (.write (.rules (MappingTask.configWith .nan (.finite 1)).mapping)),
    .tick 1050000, .publish, .offer, .output .receiveSnapshot, .output .receiveParams,
    .output .readRules]

/-- The aggregator publishes once more and finds the engine gone, and one bundle is made of
the list that the dispatcher holds. -/
theorem aftermath_nan :
    ∃ front visit back final,
      Run (step Delivery.encodeZeros)
        (started (fun _ => .simulated) (MappingTask.configWith (.finite 0) (.finite 1))
          ⟨some .sqlite, ⟨[], []⟩⟩ : Tasks Unit Ieee) (front ++ visit :: back) final ∧
      Panics visit ∧ final.tapped.pc = .stopped ∧ total Tasks.publishes back = 1 ∧
      visit.1.bundleable = 1 ∧ total Tasks.bundles back = 1 := by
  have run : Run (step Delivery.encodeZeros)
      (started (fun _ => .simulated) (MappingTask.configWith (.finite 0) (.finite 1))
        ⟨some .sqlite, ⟨[], []⟩⟩ : Tasks Unit Ieee)
      ([_, _, _, _, _, _, _, _, _, _, _, _, _] ++ _ :: [_, _, _, _, _, _]) _ :=
    execute_sound (untilSecondPanic ++ [.output .readBackends, .output (.stamp ⟨1050000000⟩),
      .tap, .tick 1100000, .publish, .offer]) rfl
  have hmost := (aftermath run ⟨rfl, _, rfl, rfl⟩).2.1
  exact ⟨_, _, _, _, run, ⟨rfl, _, rfl, rfl⟩, rfl, rfl, rfl, Nat.le_antisymm hmost (by decide)⟩

end Aftermath

end Tasks

end DaemonChoir.Conductor
