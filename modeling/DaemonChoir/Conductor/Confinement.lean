import DaemonChoir.Conductor.Baseline
import DaemonChoir.Conductor.EventOrder
import DaemonChoir.Conductor.TaskViews
set_option autoImplicit false

/-!
# Conductor: metrics that their events confine

A property of all events that are generated holds of every event on its way and in every
window.  Where windows of such events keep an average within bounds, the metric is within its
own bounds in every snapshot, wherever in the daemon the snapshots are.
-/

namespace DaemonChoir.Conductor

open DaemonChoir.Common DaemonChoir.Foundation Float64

/-! ## Wherever events and snapshots are -/

namespace Tasks

section Carries

variable {ι F : Type}

/-- Every event up to the window has the property. -/
structure Carries (holds : RawEvent → Prop) (tasks : Tasks ι F) : Prop where
  probes : ∀ i event, (tasks.probes i).offered = some event → holds event
  raw : ∀ event ∈ tasks.rawEvents.queue, holds event
  consumer : ∀ event, tasks.tapped.consumer.forwarding? = some event → holds event
  agg : ∀ event ∈ tasks.aggEvents.queue, holds event
  window : ∀ event ∈ tasks.tapped.aggregator.currentWindowEvents, holds event

/-- An event that is generated has the property. -/
def Generates (holds : RawEvent → Prop) : TasksLabel ι F → Prop
  | .probe (.generate _ event) => holds event
  | _ => True

variable [Float64 F] [Libm F] [DecidableEq ι] {holds : RawEvent → Prop}
  {encode : OscBundle F → Option (List UInt8)} {tasks next : Tasks ι F}
  {label : TasksLabel ι F}

omit [Libm F] [DecidableEq ι] in
theorem carries_started (kinds : ι → ProbeKind) (config : Config F) (db : Database F) :
    (started kinds config db).Carries holds where
  probes _ _ hoffered := by cases hoffered
  raw _ hmem := by cases hmem
  consumer _ hforwarding := by cases hforwarding
  agg _ hmem := by cases hmem
  window _ hmem := by cases hmem

omit [Libm F] [DecidableEq ι] in
/-- A tick keeps the window until the snapshot is tapped, and its metrics are those of the
averages after it. -/
theorem window_of_compute {aggregator window : Aggregator F} {nowUs lostEventsDelta : UInt64}
    {snapshot : StateSnapshot F}
    (h : aggregator.compute nowUs lostEventsDelta = some (window, snapshot)) :
    window.currentWindowEvents = aggregator.currentWindowEvents ∧
      aggregator.smooth.metrics = some snapshot.metrics := by
  obtain ⟨metrics, hmetrics, htick⟩ := aggregator.tick_eq nowUs lostEventsDelta
  rw [Aggregator.compute, htick] at h
  cases h
  exact ⟨rfl, hmetrics⟩

omit [Libm F] [DecidableEq ι] in
theorem ema_of_compute {metric : Metric} {aggregator window : Aggregator F}
    {nowUs lostEventsDelta : UInt64} {snapshot : StateSnapshot F}
    (h : aggregator.compute nowUs lostEventsDelta = some (window, snapshot)) :
    metric.ema window = metric.ema aggregator.smooth := by
  obtain ⟨metrics, _, htick⟩ := aggregator.tick_eq nowUs lostEventsDelta
  rw [Aggregator.compute, htick] at h
  cases h
  cases metric <;> rfl

omit [Libm F] in
/-- A probe passes on what it has generated. -/
theorem Carries.probe (carries : tasks.Carries holds) {label : IngestLabel ι}
    {ingest : Ingest ι F} (hgenerates : Generates (F := F) holds (.probe label))
    (hlabel : label.movesProbe = true) (taken : tasks.ingest.step label = some ingest) :
    (tasks.setProbes ingest).Carries holds := by
  have hgenerated : ∀ i, ∀ event ∈ Ingest.generatedBy i (tasks.ingest, label), holds event := by
    intro i event hmem
    cases label with
    | generate generator generated =>
        simp only [Ingest.generatedBy] at hmem
        split at hmem
        · rw [List.mem_singleton.mp hmem]
          exact hgenerates
        · cases hmem
    | _ => cases hmem
  have hentered : ∀ event ∈ (Ingest.entered (tasks.ingest, label)).map Prod.snd,
      holds event := by
    intro event hmem
    cases label with
    | send sender =>
        simp only [Ingest.entered] at hmem
        split at hmem
        · cases hmem
        · simp only [List.map_map, Function.comp_def, List.map_id'] at hmem
          exact carries.probes sender event (Option.mem_toList.mp hmem)
    | _ => cases hmem
  exact {
    probes := fun i event hoffered => by
      have hhand := Ingest.probe_hand i taken
      have hmem : event ∈ (tasks.ingest.probes i).offered.toList ++
          Ingest.generatedBy i (tasks.ingest, label) := by
        rw [hhand]
        exact List.mem_append_right _ (Option.mem_toList.mpr hoffered)
      rcases List.mem_append.mp hmem with hbefore | hnew
      · exact carries.probes i event (Option.mem_toList.mp hbefore)
      · exact hgenerated i event hnew
    raw := fun event hqueued => by
      have hhand := Ingest.raw_hand taken
      have hmem : event ∈ tasks.ingest.rawEvents.queue ++
          (Ingest.entered (tasks.ingest, label)).map Prod.snd := by
        rw [hhand]
        exact List.mem_append_right _ hqueued
      rcases List.mem_append.mp hmem with hbefore | hnew
      · exact carries.raw event hbefore
      · exact hentered event hnew
    consumer := carries.consumer
    agg := carries.agg
    window := carries.window }

theorem Carries.step (carries : tasks.Carries holds) (hgenerates : Generates holds label)
    (taken : tasks.step encode label = some next) : next.Carries holds := by
  cases step_moves taken with
  | probe label ingest hlabel hstep => exact carries.probe hgenerates hlabel hstep
  | received event rest hconsumer hrecv =>
      have hqueue := (Channel.recv_item hrecv).1
      have hraw := carries.raw
      rw [hqueue] at hraw
      exact {
        probes := carries.probes
        raw := fun other hmem => hraw other (List.mem_cons_of_mem _ hmem)
        consumer := fun other hother => by
          cases hother
          exact hraw event List.mem_cons_self
        agg := carries.agg
        window := carries.window }
  | rawEnded hconsumer =>
      exact { carries with consumer := fun _ hother => by cases hother }
  | forwarded event answer after hconsumer hsend =>
      have hevent : holds event :=
        carries.consumer event (by rw [hconsumer, RingbufConsumer.forwarding?])
      exact {
        probes := carries.probes
        raw := carries.raw
        consumer := fun _ hother => by cases hother
        agg := fun other hmem => by
          rcases List.mem_append.mp (Channel.trySend_queue hsend ▸ hmem) with hmem | hmem
          · exact carries.agg other hmem
          · split at hmem
            · cases hmem
            · rw [List.mem_singleton.mp hmem]
              exact hevent
        window := carries.window }
  | aggregatorGone event after hconsumer hsend =>
      have hgone := (Channel.trySend_closed_iff hsend).mp rfl
      exact {
        probes := carries.probes
        raw := carries.raw
        consumer := fun _ hother => by cases hother
        agg := fun other hmem => by
          have hqueue := Channel.trySend_queue hsend
          rw [if_pos (.inl hgone), List.append_nil] at hqueue
          exact carries.agg other (hqueue ▸ hmem)
        window := carries.window }
  | pushed event rest hpc hrecv =>
      have hqueue := (Channel.recv_item hrecv).1
      have hagg := carries.agg
      rw [hqueue] at hagg
      exact {
        probes := carries.probes
        raw := carries.raw
        consumer := carries.consumer
        agg := fun other hmem => hagg other (List.mem_cons_of_mem _ hmem)
        window := fun other hmem => by
          rcases List.mem_append.mp hmem with hmem | hmem
          · exact carries.window other hmem
          · rw [List.mem_singleton.mp hmem]
            exact hagg event List.mem_cons_self }
  | ticked nowUs window snapshot hpc hcompute =>
      exact {
        probes := carries.probes
        raw := carries.raw
        consumer := carries.consumer
        agg := carries.agg
        window := by
          rw [(window_of_compute hcompute).1]
          exact carries.window }
  | tapped snapshot hpc => exact { carries with window := fun _ hmem => by cases hmem }
  | stored label tapped hlabel hstep =>
      obtain ⟨hconsumer, haggregator, _, _⟩ := store_loops hlabel hstep
      exact {
        probes := carries.probes
        raw := carries.raw
        consumer := by
          rw [hconsumer]
          exact carries.consumer
        agg := carries.agg
        window := by
          rw [haggregator]
          exact carries.window }
  | _ =>
      exact ⟨carries.probes, carries.raw, carries.consumer, carries.agg, carries.window⟩

end Carries

section Confined

variable {ι F : Type} [Float64 F]

/-- The snapshot that the aggregator has in its hands. -/
def inHand (tasks : Tasks ι F) : Option (StateSnapshot F) :=
  match tasks.tapped.pc with
  | .publishing snapshot | .forwarding snapshot | .tapping snapshot => some snapshot
  | _ => none

/-- Windows of such events keep the average of a metric within bounds, and averages within
bounds are shown as such values. -/
structure Confines (metric : Metric) (holds : RawEvent → Prop) (within shown : F → Prop) :
    Prop where
  new : ∀ windowMs, within (metric.ema (Aggregator.new windowMs))
  smooth : ∀ aggregator : Aggregator F, within (metric.ema aggregator) →
    (∀ event ∈ aggregator.currentWindowEvents, holds event) →
      within (metric.ema aggregator.smooth)
  value : ∀ (aggregator : Aggregator F) (metrics : MetricMap F),
    within (metric.ema aggregator) → aggregator.metrics = some metrics →
      shown (metric.value metrics)
  default : shown (metric.value .default)

/-- The metric is within its bounds in the average and in every snapshot up to the engine, and
every event under way has the property. -/
structure Confined (metric : Metric) (holds : RawEvent → Prop) (within shown : F → Prop)
    (tasks : Tasks ι F) : Prop where
  carries : tasks.Carries holds
  average : within (metric.ema tasks.tapped.aggregator)
  inHand : ∀ snapshot, tasks.inHand = some snapshot → shown (metric.value snapshot.metrics)
  shared : shown (metric.value tasks.tapped.sharedState.value.metrics)
  queued : ∀ snapshot ∈ tasks.snapshots.queue, shown (metric.value snapshot.item.metrics)
  held : ∀ snapshot, tasks.engine = .holding snapshot →
    shown (metric.value snapshot.item.metrics)

variable {metric : Metric} {holds : RawEvent → Prop} {within shown : F → Prop}

theorem confined_started (confines : Confines metric holds within shown)
    (kinds : ι → ProbeKind) (config : Config F) (db : Database F) :
    (started kinds config db).Confined metric holds within shown where
  carries := carries_started kinds config db
  average := confines.new _
  inHand _ hsnapshot := by cases hsnapshot
  shared := confines.default
  queued _ hmem := by cases hmem
  held _ hholding := by cases hholding

variable [Libm F] [DecidableEq ι] {encode : OscBundle F → Option (List UInt8)}
  {tasks next : Tasks ι F} {label : TasksLabel ι F}

omit [Float64 F] [Libm F] [DecidableEq ι] in
/-- Steps of other tasks leave averages and snapshots alone. -/
theorem Confined.of_carries (confined : tasks.Confined metric holds within shown)
    (carries : next.Carries holds)
    (haverage : metric.ema next.tapped.aggregator = metric.ema tasks.tapped.aggregator)
    (hpc : next.tapped.pc = tasks.tapped.pc)
    (hshared : next.tapped.sharedState = tasks.tapped.sharedState)
    (hqueue : next.snapshots = tasks.snapshots) (hengine : next.engine = tasks.engine) :
    next.Confined metric holds within shown where
  carries := carries
  average := by
    rw [haverage]
    exact confined.average
  inHand := by
    unfold Tasks.inHand
    rw [hpc]
    exact confined.inHand
  shared := by
    rw [hshared]
    exact confined.shared
  queued := by
    rw [hqueue]
    exact confined.queued
  held := by
    rw [hengine]
    exact confined.held

omit [DecidableEq ι] in
/-- The engine takes its snapshots from the queue. -/
theorem Confined.output (confined : tasks.Confined metric holds within shown) {label : DeliveryLabel F}
    {delivery : Delivery F} (hlabel : label.movesOutput = true)
    (taken : tasks.delivery.step encode label = some delivery) :
    (∀ snapshot ∈ delivery.snapshots.queue, shown (metric.value snapshot.item.metrics)) ∧
      ∀ snapshot, delivery.engine = .holding snapshot →
        shown (metric.value snapshot.item.metrics) := by
  have hbefore : ∀ snapshot ∈ tasks.delivery.snapshots.queue,
      shown (metric.value snapshot.item.metrics) := confined.queued
  cases Delivery.step_moves taken with
  | held snapshot rest hengine hqueue =>
      rw [hqueue] at hbefore
      refine ⟨fun other hmem => hbefore other (List.mem_cons_of_mem _ hmem), ?_⟩
      intro other hholding
      cases hholding
      exact hbefore snapshot List.mem_cons_self
  | snapshotsEnded => exact ⟨hbefore, fun _ hholding => by cases hholding⟩
  | rulesPoisoned => exact ⟨hbefore, fun _ hholding => by cases hholding⟩
  | mapPanicked => exact ⟨hbefore, fun _ hholding => by cases hholding⟩
  | mapped => exact ⟨hbefore, fun _ hholding => by cases hholding⟩
  | sendOk => exact ⟨hbefore, fun _ hholding => by cases hholding⟩
  | sendFull => exact ⟨hbefore, fun _ hholding => by cases hholding⟩
  | sendClosed => exact ⟨hbefore, fun _ hholding => by cases hholding⟩
  | pushed => cases hlabel
  | ticked => cases hlabel
  | emitOk => cases hlabel
  | emitFull => cases hlabel
  | emitClosed => cases hlabel
  | _ => exact ⟨hbefore, confined.held⟩

theorem Confined.step (confines : Confines metric holds within shown)
    (confined : tasks.Confined metric holds within shown) (hgenerates : Generates holds label)
    (taken : tasks.step encode label = some next) : next.Confined metric holds within shown := by
  have carries := confined.carries.step hgenerates taken
  cases step_moves taken with
  | pushed event rest hpc =>
      refine confined.of_carries carries ?_ rfl rfl rfl rfl
      cases metric <;> rfl
  | aggEnded hpc =>
      exact {
        carries := carries
        average := confined.average
        inHand := fun _ hsnapshot => by cases hsnapshot
        shared := confined.shared
        queued := confined.queued
        held := confined.held }
  | ticked nowUs window snapshot hpc hcompute =>
      obtain ⟨_, hmetrics⟩ := window_of_compute hcompute
      have hsmooth := confines.smooth _ confined.average confined.carries.window
      have haverage : metric.ema window = metric.ema tasks.tapped.aggregator.smooth :=
        ema_of_compute hcompute
      exact {
        carries := carries
        average := by
          rw [haverage]
          exact hsmooth
        inHand := fun other hother => by
          cases hother
          exact confines.value _ _ hsmooth hmetrics
        shared := confined.shared
        queued := confined.queued
        held := confined.held }
  | published snapshot hpc =>
      have hsnapshot := confined.inHand snapshot (by rw [Tasks.inHand, hpc])
      exact {
        carries := carries
        average := confined.average
        inHand := fun other hother => by
          cases hother
          exact hsnapshot
        shared := by
          simp only [RwLock.write]
          split
          · exact confined.shared
          · exact hsnapshot
        queued := confined.queued
        held := confined.held }
  | offered snapshot answer after hpc hsend =>
      have hsnapshot := confined.inHand snapshot (by rw [Tasks.inHand, hpc])
      exact {
        carries := carries
        average := confined.average
        inHand := fun other hother => by
          cases hother
          exact hsnapshot
        shared := confined.shared
        queued := fun other hmem => by
          rcases List.mem_append.mp (Channel.trySend_queue hsend ▸ hmem) with hmem | hmem
          · exact confined.queued other hmem
          · split at hmem
            · cases hmem
            · rw [List.mem_singleton.mp hmem]
              exact hsnapshot
        held := confined.held }
  | engineGone snapshot after hpc hsend =>
      have hgone := (Channel.trySend_closed_iff hsend).mp rfl
      have hqueue := Channel.trySend_queue hsend
      rw [if_pos (.inl hgone), List.append_nil] at hqueue
      exact {
        carries := carries
        average := confined.average
        inHand := fun _ hsnapshot => by cases hsnapshot
        shared := confined.shared
        queued := fun other hmem => confined.queued other (hqueue ▸ hmem)
        held := confined.held }
  | tapped snapshot hpc =>
      exact {
        carries := carries
        average := by
          have hsame : metric.ema tasks.tapped.aggregator.clear =
              metric.ema tasks.tapped.aggregator := by cases metric <;> rfl
          rw [hsame]
          exact confined.average
        inHand := fun _ hsnapshot => by cases hsnapshot
        shared := confined.shared
        queued := confined.queued
        held := confined.held }
  | stored label tapped hlabel hstep =>
      obtain ⟨_, haggregator, hpc, hshared⟩ := store_loops hlabel hstep
      exact confined.of_carries carries (by rw [haggregator]) hpc hshared rfl rfl
  | output label delivery hlabel hstep =>
      obtain ⟨hqueued, hheld⟩ := confined.output hlabel hstep
      exact ⟨carries, confined.average, confined.inHand, confined.shared, hqueued, hheld⟩
  | _ => exact confined.of_carries carries rfl rfl rfl rfl rfl

omit [DecidableEq ι] in
/-- A rule for the metric gives a value within bounds to its transform. -/
theorem Confined.mapped (confined : tasks.Confined metric holds within shown)
    {snapshot : Tagged (StateSnapshot F)} {params : List (MappedParam F)}
    (hholding : tasks.engine = .holding snapshot)
    (hframe : mappingFrame tasks.cells.mappingRules snapshot.item = .mapped params)
    {rule : MappingRule F} (hrule : rule ∈ tasks.cells.mappingRules.value)
    (hsource : snapshot.item.metrics.getValue rule.sourceMetric =
      some (metric.value snapshot.item.metrics)) :
    ∃ param ∈ params, param.oscAddress = rule.oscAddress ∧
      ∃ val, shown val ∧ applyRule rule val = some param.value := by
  rcases mappingFrame_cases tasks.cells.mappingRules snapshot.item with
    ⟨_, hskipped⟩ | ⟨_, _, hpanicked⟩ | ⟨mapped, _, hrules, hmapped⟩
  · simp [hskipped] at hframe
  · simp [hpanicked] at hframe
  · obtain rfl : mapped = params := Frame.mapped.inj (hmapped.symm.trans hframe)
    have hknown : (snapshot.item.metrics.getValue rule.sourceMetric).isSome = true := by
      rw [hsource]
      rfl
    obtain ⟨param, hparam, haddress, val, hval, happly⟩ := exists_isMapped hrules hrule hknown
    rw [hsource] at hval
    obtain rfl := Option.some.inj hval
    exact ⟨param, hparam, haddress, _, confined.held snapshot hholding, happly⟩

/-- A metric that all generated events confine is within its bounds wherever it can be read. -/
theorem confined_of_run (confines : Confines metric holds within shown)
    {kinds : ι → ProbeKind} {config : Config F} {db : Database F}
    {trace : List (Tasks ι F × TasksLabel ι F)} {final : Tasks ι F}
    (run : Run (step encode) (started kinds config db) trace final)
    (hgenerates : ∀ visit ∈ trace, Generates holds visit.2) :
    final.Confined metric holds within shown ∧
      ∀ visit ∈ trace, visit.1.Confined metric holds within shown :=
  run.invariant_of_labels (Confined metric holds within shown) (Generates holds)
    (confined_started confines kinds config db)
    (fun confined hlabel taken => confined.step confines hlabel taken) hgenerates

end Confined

end Tasks

end DaemonChoir.Conductor

