import DaemonChoir.Conductor.Delivery
import DaemonChoir.Conductor.Ingest
import DaemonChoir.Conductor.Isolation
set_option autoImplicit false

/-!
# Conductor: all tasks of `main` together (`conductor/src/main.rs`)

The probe tasks, the consumer, the aggregator, the mapping engine, the dispatcher and the
writer of the snapshots, wired as `main` wires them: what one task is told by a channel is
what the task at the other end has put there.  Leaving a loop drops every channel end that
the task owns.  `ProbeManager` keeps a sender of the raw channel for itself.

A step is one operation of one task on what it shares with the others, so that every
interleaving is a run.  The three parts keep their own step functions, and a step of a part
is a step of the whole as long as it moves a task of that part; the aggregator, which
belongs to all of them, is modelled here with all it does in one turn: receive, tick,
publish, offer, tap.

Nothing is assumed about fairness or speed.  Outside are the events of the probes, all
clocks, the answers of the network and of SQLite, and the writes of the handlers.  Two
things of the source are not here: the panic of a probe task over its clock, which
`ProbeClocks` adds, and the handlers themselves, which `Server` runs beside these tasks.

`Wiring` proves the invariant about dropped channel ends, `TaskViews` that the models of
the parts are views of this one, `Cascade` what a panic of the engine brings about, and
`Quiescence` that the tasks come to rest.
-/

namespace DaemonChoir.Conductor

open DaemonChoir.Common DaemonChoir.Foundation

/-- The tasks, and the channels, cells and counters between them. -/
structure Tasks (ι F : Type) where
  probes : ι → ProbeTask
  shutdown : Bool
  cumulativeLostEvents : UInt64
  rawEvents : Channel eventCapacity RawEvent
  aggEvents : Channel eventCapacity RawEvent
  /-- The consumer, the aggregator, and the storage behind them. -/
  tapped : Tapped F
  snapshotTimestampUs : UInt64
  /-- How many snapshots were offered to the mapping engine. -/
  emissions : ℕ
  snapshots : Channel frameCapacity (Tagged (StateSnapshot F))
  engine : MappingEngine F
  mappedParams : Channel frameCapacity (Tagged (List (MappedParam F)))
  dispatcher : OscDispatcher F
  cells : ConfigCells F
  oscMetrics : OscMetrics
  latencyHistogram : PrometheusHistogram

/-- Which task moves, with what comes from outside. -/
inductive TasksLabel (ι F : Type) where
  /-- A step of a probe task, or `ProbeManager::shutdown`. -/
  | probe (label : IngestLabel ι)
  /-- `rx.recv()` of the consumer. -/
  | receive
  /-- `aggregator_tx.try_send(event)` of the consumer. -/
  | forward
  /-- `rx.recv()` of the aggregator. -/
  | aggregate
  /-- The interval up to `shared_state.write()`. -/
  | tick (nowUs : UInt64)
  /-- `shared_state.write()` -/
  | publish
  /-- `tx.try_send(snapshot)` of the aggregator. -/
  | offer
  /-- The database tap. -/
  | tap
  /-- A step of storage. -/
  | store (label : TappedLabel)
  /-- A step of the engine or the dispatcher, or a handler's write. -/
  | output (label : DeliveryLabel F)

/-- The label moves a probe task. -/
def IngestLabel.movesProbe {ι : Type} : IngestLabel ι → Bool
  | .generate _ _ | .send _ | .account _ | .leave _ | .shutdown => true
  | _ => false

/-- The label moves storage.  The task behind the snapshot channel ends by itself only. -/
def TappedLabel.movesStore : TappedLabel → Bool
  | .insertEvent _ _ | .takeSnapshot | .insertSnapshot _ | .purge _ _ _ _ | .wipe _ _ => true
  | _ => false

/-- The label moves what comes after the aggregator. -/
def DeliveryLabel.movesOutput {F : Type} : DeliveryLabel F → Bool
  | .push _ | .tick _ _ | .emit => false
  | _ => true

namespace Tasks

/-! ## The parts -/

section Parts

variable {ι F : Type}

/-- The aggregator as the tasks around it see it: from the tick on the window is over. -/
def settledAggregator (tasks : Tasks ι F) : Aggregator F :=
  match tasks.tapped.pc with
  | .selecting => tasks.tapped.aggregator
  | _ => tasks.tapped.aggregator.clear

/-- The snapshot of a tick before it is offered to the engine. -/
def ticking (tasks : Tasks ι F) : Option (StateSnapshot F) :=
  match tasks.tapped.pc with
  | .publishing snapshot => some snapshot
  | .forwarding snapshot => some snapshot
  | _ => none

/-- The part from the probes to the window. -/
def ingest (tasks : Tasks ι F) : Ingest ι F where
  probes := tasks.probes
  shutdown := tasks.shutdown
  cumulativeLostEvents := tasks.cumulativeLostEvents
  rawEvents := tasks.rawEvents
  consumer := tasks.tapped.consumer
  aggEvents := tasks.aggEvents
  aggregator := tasks.settledAggregator
  aggregating := !tasks.tapped.pc.isStopped

/-- The part from the tick to the socket. -/
def delivery (tasks : Tasks ι F) : Delivery F where
  aggregator := tasks.settledAggregator
  ticking := tasks.ticking
  aggregating := !tasks.tapped.pc.isStopped
  emissions := tasks.emissions
  snapshotTimestampUs := tasks.snapshotTimestampUs
  snapshots := tasks.snapshots
  engine := tasks.engine
  mappedParams := tasks.mappedParams
  dispatcher := tasks.dispatcher
  cells := tasks.cells
  oscMetrics := tasks.oscMetrics
  latencyHistogram := tasks.latencyHistogram

/-- Put back what the probe tasks touch. -/
def setProbes (tasks : Tasks ι F) (ingest : Ingest ι F) : Tasks ι F :=
  { tasks with
    probes := ingest.probes
    shutdown := ingest.shutdown
    cumulativeLostEvents := ingest.cumulativeLostEvents
    rawEvents := ingest.rawEvents }

/-- Put back what the engine, the dispatcher and the handlers touch. -/
def setOutput (tasks : Tasks ι F) (delivery : Delivery F) : Tasks ι F :=
  { tasks with
    snapshots := delivery.snapshots
    engine := delivery.engine
    mappedParams := delivery.mappedParams
    dispatcher := delivery.dispatcher
    cells := delivery.cells
    oscMetrics := delivery.oscMetrics
    latencyHistogram := delivery.latencyHistogram }

end Parts

/-! ## The code -/

section Steps

variable {ι F : Type}

/-- The tasks as `main` starts them, on any database. -/
def started [Float64 F] (kinds : ι → ProbeKind) (config : Config F) (db : Database F) :
    Tasks ι F where
  probes i := .spawned (kinds i)
  shutdown := false
  cumulativeLostEvents := 0
  rawEvents := .empty eventCapacity RawEvent
  aggEvents := .empty eventCapacity RawEvent
  tapped := .started config.daemon.windowMs db (some (.empty _ _))
  snapshotTimestampUs := 0
  emissions := 0
  snapshots := .empty frameCapacity _
  engine := .receiving
  mappedParams := .empty frameCapacity _
  dispatcher := .receiving
  cells := .new config
  oscMetrics := ⟨0, 0⟩
  latencyHistogram := .default

/-- The consumer receives; at the end of the raw channel it leaves its loop. -/
def receive (tasks : Tasks ι F) : Option (Tasks ι F) :=
  match tasks.rawEvents.recv with
  | .item event rest =>
      (tasks.tapped.receive (some event)).map fun tapped =>
        { tasks with rawEvents := rest, tapped := tapped }
  | .ended =>
      (tasks.tapped.receive none).map fun tapped =>
        { tasks with
          rawEvents := tasks.rawEvents.dropReceiver
          aggEvents := tasks.aggEvents.dropSenders
          tapped := tapped }
  | .pending => none

/-- The consumer forwards; when the aggregator is gone it leaves its loop. -/
def forward (tasks : Tasks ι F) : Option (Tasks ι F) :=
  match tasks.tapped.consumer with
  | .forwarding event =>
      match tasks.aggEvents.trySend event with
      | (.closed, after) =>
          (tasks.tapped.forward .closed).map fun tapped =>
            { tasks with
              rawEvents := tasks.rawEvents.dropReceiver
              aggEvents := after.dropSenders
              tapped := tapped }
      | (answer, after) =>
          (tasks.tapped.forward answer).map fun tapped =>
            { tasks with aggEvents := after, tapped := tapped }
  | _ => none

/-- The aggregator receives; at the end of its channel it leaves its loop. -/
def aggregate (tasks : Tasks ι F) : Option (Tasks ι F) :=
  match tasks.aggEvents.recv with
  | .item event rest =>
      (tasks.tapped.aggregate (some event)).map fun tapped =>
        { tasks with aggEvents := rest, tapped := tapped }
  | .ended =>
      (tasks.tapped.aggregate none).map fun tapped =>
        { tasks with
          aggEvents := tasks.aggEvents.dropReceiver
          snapshots := tasks.snapshots.dropSenders
          tapped := tapped }
  | .pending => none

/-- The aggregator offers its snapshot; when the engine is gone it leaves its loop. -/
def offer (tasks : Tasks ι F) : Option (Tasks ι F) :=
  match tasks.tapped.pc with
  | .forwarding snapshot =>
      match tasks.snapshots.trySend ⟨tasks.emissions, snapshot⟩ with
      | (.closed, after) =>
          (tasks.tapped.offer .closed).map fun tapped =>
            { tasks with
              aggEvents := tasks.aggEvents.dropReceiver
              tapped := tapped
              emissions := tasks.emissions + 1
              snapshots := after.dropSenders }
      | (answer, after) =>
          (tasks.tapped.offer answer).map fun tapped =>
            { tasks with
              tapped := tapped, emissions := tasks.emissions + 1, snapshots := after }
  | _ => none

variable [Float64 F]

/-- A tick: the clock is stored and the loss counter swapped for zero. -/
def tick (tasks : Tasks ι F) (nowUs : UInt64) : Option (Tasks ι F) :=
  (tasks.tapped.tick nowUs tasks.cumulativeLostEvents).map fun tapped =>
    { tasks with
      cumulativeLostEvents := 0, tapped := tapped, snapshotTimestampUs := nowUs }

variable [Libm F] [DecidableEq ι]

/-- One step of one task.  `encode` is `rosc::encoder::encode`. -/
def step (encode : OscBundle F → Option (List UInt8)) (tasks : Tasks ι F) :
    TasksLabel ι F → Option (Tasks ι F)
  | .probe label =>
      if label.movesProbe then (tasks.ingest.step label).map tasks.setProbes else none
  | .receive => tasks.receive
  | .forward => tasks.forward
  | .aggregate => tasks.aggregate
  | .tick nowUs => tasks.tick nowUs
  | .publish => tasks.tapped.publish.map fun tapped => { tasks with tapped := tapped }
  | .offer => tasks.offer
  | .tap => tasks.tapped.tap.map fun tapped => { tasks with tapped := tapped }
  | .store label =>
      if label.movesStore then
        (tasks.tapped.step label).map fun tapped => { tasks with tapped := tapped }
      else none
  | .output label =>
      if label.movesOutput then (tasks.delivery.step encode label).map tasks.setOutput
      else none

/-! ## What a step can do -/

/-- Everything a step can do.  The steps of the three parts are left to the parts. -/
inductive Moves (encode : OscBundle F → Option (List UInt8)) (tasks : Tasks ι F) :
    TasksLabel ι F → Tasks ι F → Prop
  | probe (label : IngestLabel ι) (ingest : Ingest ι F) (hlabel : label.movesProbe = true)
      (taken : tasks.ingest.step label = some ingest) :
      Moves encode tasks (.probe label) (tasks.setProbes ingest)
  | received (event : RawEvent) (rest : Channel eventCapacity RawEvent)
      (hconsumer : tasks.tapped.consumer = .receiving)
      (hrecv : tasks.rawEvents.recv = .item event rest) :
      Moves encode tasks .receive
        { tasks with
          rawEvents := rest
          tapped := { tasks.tapped with
            consumer := .forwarding event
            spawned := tasks.tapped.spawned ++ [event] } }
  | rawEnded (hconsumer : tasks.tapped.consumer = .receiving)
      (hrecv : tasks.rawEvents.recv = .ended) :
      Moves encode tasks .receive
        { tasks with
          rawEvents := tasks.rawEvents.dropReceiver
          aggEvents := tasks.aggEvents.dropSenders
          tapped := { tasks.tapped with consumer := .stopped } }
  | forwarded (event : RawEvent) (answer : TrySend) (after : Channel eventCapacity RawEvent)
      (hconsumer : tasks.tapped.consumer = .forwarding event)
      (hsend : tasks.aggEvents.trySend event = (answer, after)) (hopen : answer ≠ .closed) :
      Moves encode tasks .forward
        { tasks with
          aggEvents := after, tapped := { tasks.tapped with consumer := .receiving } }
  | aggregatorGone (event : RawEvent) (after : Channel eventCapacity RawEvent)
      (hconsumer : tasks.tapped.consumer = .forwarding event)
      (hsend : tasks.aggEvents.trySend event = (.closed, after)) :
      Moves encode tasks .forward
        { tasks with
          rawEvents := tasks.rawEvents.dropReceiver
          aggEvents := after.dropSenders
          tapped := { tasks.tapped with consumer := .stopped } }
  | pushed (event : RawEvent) (rest : Channel eventCapacity RawEvent)
      (hpc : tasks.tapped.pc = .selecting) (hrecv : tasks.aggEvents.recv = .item event rest) :
      Moves encode tasks .aggregate
        { tasks with
          aggEvents := rest
          tapped := { tasks.tapped with aggregator := tasks.tapped.aggregator.push event } }
  | aggEnded (hpc : tasks.tapped.pc = .selecting) (hrecv : tasks.aggEvents.recv = .ended) :
      Moves encode tasks .aggregate
        { tasks with
          aggEvents := tasks.aggEvents.dropReceiver
          snapshots := tasks.snapshots.dropSenders
          tapped := tasks.tapped.stopAggregator }
  | ticked (nowUs : UInt64) (window : Aggregator F) (snapshot : StateSnapshot F)
      (hpc : tasks.tapped.pc = .selecting)
      (hcompute : tasks.tapped.aggregator.compute nowUs tasks.cumulativeLostEvents =
        some (window, snapshot)) :
      Moves encode tasks (.tick nowUs)
        { tasks with
          cumulativeLostEvents := 0
          tapped := { tasks.tapped with aggregator := window, pc := .publishing snapshot }
          snapshotTimestampUs := nowUs }
  | published (snapshot : StateSnapshot F) (hpc : tasks.tapped.pc = .publishing snapshot) :
      Moves encode tasks .publish
        { tasks with
          tapped := { tasks.tapped with
            sharedState := tasks.tapped.sharedState.write fun _ => snapshot
            pc := .forwarding snapshot } }
  | offered (snapshot : StateSnapshot F) (answer : TrySend)
      (after : Channel frameCapacity (Tagged (StateSnapshot F)))
      (hpc : tasks.tapped.pc = .forwarding snapshot)
      (hsend : tasks.snapshots.trySend ⟨tasks.emissions, snapshot⟩ = (answer, after))
      (hopen : answer ≠ .closed) :
      Moves encode tasks .offer
        { tasks with
          tapped := { tasks.tapped with pc := .tapping snapshot }
          emissions := tasks.emissions + 1
          snapshots := after }
  | engineGone (snapshot : StateSnapshot F)
      (after : Channel frameCapacity (Tagged (StateSnapshot F)))
      (hpc : tasks.tapped.pc = .forwarding snapshot)
      (hsend : tasks.snapshots.trySend ⟨tasks.emissions, snapshot⟩ = (.closed, after)) :
      Moves encode tasks .offer
        { tasks with
          aggEvents := tasks.aggEvents.dropReceiver
          tapped := tasks.tapped.stopAggregator
          emissions := tasks.emissions + 1
          snapshots := after.dropSenders }
  | tapped (snapshot : StateSnapshot F) (hpc : tasks.tapped.pc = .tapping snapshot) :
      Moves encode tasks .tap
        { tasks with
          tapped := { tasks.tapped with
            dbTx := tasks.tapped.dbTx.map fun channel => (channel.trySend snapshot).2
            aggregator := tasks.tapped.aggregator.clear
            pc := .selecting } }
  | stored (label : TappedLabel) (tapped : Tapped F) (hlabel : label.movesStore = true)
      (taken : tasks.tapped.step label = some tapped) :
      Moves encode tasks (.store label) { tasks with tapped := tapped }
  | output (label : DeliveryLabel F) (delivery : Delivery F)
      (hlabel : label.movesOutput = true)
      (taken : tasks.delivery.step encode label = some delivery) :
      Moves encode tasks (.output label) (tasks.setOutput delivery)

variable {encode : OscBundle F → Option (List UInt8)} {tasks next : Tasks ι F}
  {label : TasksLabel ι F}

theorem receive_moves (taken : tasks.receive = some next) :
    Moves encode tasks .receive next := by
  unfold receive at taken
  cases hconsumer : tasks.tapped.consumer with
  | receiving =>
      cases hrecv : tasks.rawEvents.recv with
      | item event rest =>
          simp only [hrecv, Tapped.receive, hconsumer, RingbufConsumer.received,
            Option.toList_some, Option.map_some, Option.some.injEq] at taken
          rw [← taken]
          exact .received event rest hconsumer hrecv
      | ended =>
          simp only [hrecv, Tapped.receive, hconsumer, RingbufConsumer.received,
            Option.toList_none, List.append_nil, Option.map_some, Option.some.injEq] at taken
          rw [← taken]
          exact .rawEnded hconsumer hrecv
      | pending => simp [hrecv] at taken
  | _ =>
      cases hrecv : tasks.rawEvents.recv <;>
        simp [hrecv, Tapped.receive, hconsumer, RingbufConsumer.received] at taken

theorem forward_moves (taken : tasks.forward = some next) :
    Moves encode tasks .forward next := by
  unfold forward at taken
  cases hconsumer : tasks.tapped.consumer with
  | forwarding event =>
      rcases hsend : tasks.aggEvents.trySend event with ⟨answer, after⟩
      simp only [hconsumer, hsend] at taken
      cases answer with
      | closed =>
          simp only [Tapped.forward, hconsumer, RingbufConsumer.forwarded, Option.map_some,
            Option.some.injEq] at taken
          rw [← taken]
          exact .aggregatorGone event after hconsumer hsend
      | _ =>
          simp only [Tapped.forward, hconsumer, RingbufConsumer.forwarded, Option.map_some,
            Option.some.injEq] at taken
          rw [← taken]
          exact .forwarded event _ after hconsumer hsend (by simp)
  | _ => simp [hconsumer] at taken

theorem aggregate_moves (taken : tasks.aggregate = some next) :
    Moves encode tasks .aggregate next := by
  unfold aggregate at taken
  cases hrecv : tasks.aggEvents.recv with
  | item event rest =>
      rw [hrecv] at taken
      obtain ⟨tapped, hstep, rfl⟩ := Option.map_eq_some_iff.mp taken
      unfold Tapped.aggregate at hstep
      split at hstep
      · rename_i pushed hpc hevent
        cases hevent
        cases hstep
        exact .pushed event rest hpc hrecv
      · rename_i hevent
        cases hevent
      · cases hstep
  | ended =>
      rw [hrecv] at taken
      obtain ⟨tapped, hstep, rfl⟩ := Option.map_eq_some_iff.mp taken
      unfold Tapped.aggregate at hstep
      split at hstep
      · rename_i hevent
        cases hevent
      · rename_i hpc _
        cases hstep
        exact .aggEnded hpc hrecv
      · cases hstep
  | pending => simp [hrecv] at taken

theorem tick_moves {nowUs : UInt64} (taken : tasks.tick nowUs = some next) :
    Moves encode tasks (.tick nowUs) next := by
  unfold tick Tapped.tick at taken
  cases hpc : tasks.tapped.pc with
  | selecting =>
      cases hcompute : tasks.tapped.aggregator.compute nowUs tasks.cumulativeLostEvents with
      | none => simp [hpc, hcompute] at taken
      | some result =>
          simp only [hpc, hcompute, Option.map_some, Option.some.injEq] at taken
          rw [← taken]
          exact .ticked nowUs result.1 result.2 hpc hcompute
  | _ => simp [hpc] at taken

theorem offer_moves (taken : tasks.offer = some next) : Moves encode tasks .offer next := by
  unfold offer at taken
  cases hpc : tasks.tapped.pc with
  | forwarding snapshot =>
      rcases hsend : tasks.snapshots.trySend ⟨tasks.emissions, snapshot⟩ with ⟨answer, after⟩
      simp only [hpc, hsend] at taken
      cases answer with
      | closed =>
          simp only [Tapped.offer, hpc, Option.map_some, Option.some.injEq] at taken
          rw [← taken]
          exact .engineGone snapshot after hpc hsend
      | _ =>
          simp only [Tapped.offer, hpc, Option.map_some, Option.some.injEq] at taken
          rw [← taken]
          exact .offered snapshot _ after hpc hsend (by simp)
  | _ => simp [hpc] at taken

/-- A step does one of these things. -/
theorem step_moves (taken : tasks.step encode label = some next) :
    Moves encode tasks label next := by
  cases label with
  | probe label =>
      simp only [step] at taken
      split at taken
      · rename_i hlabel
        obtain ⟨ingest, hstep, rfl⟩ := Option.map_eq_some_iff.mp taken
        exact .probe label ingest hlabel hstep
      · cases taken
  | receive => exact receive_moves taken
  | forward => exact forward_moves taken
  | aggregate => exact aggregate_moves taken
  | tick nowUs => exact tick_moves taken
  | publish =>
      simp only [step, Tapped.publish] at taken
      split at taken
      · rename_i snapshot hpc
        cases taken
        exact .published snapshot hpc
      · cases taken
  | offer => exact offer_moves taken
  | tap =>
      simp only [step, Tapped.tap] at taken
      split at taken
      · rename_i snapshot hpc
        cases taken
        exact .tapped snapshot hpc
      · cases taken
  | store label =>
      simp only [step] at taken
      split at taken
      · rename_i hlabel
        obtain ⟨tapped, hstep, rfl⟩ := Option.map_eq_some_iff.mp taken
        exact .stored label tapped hlabel hstep
      · cases taken
  | output label =>
      simp only [step] at taken
      split at taken
      · rename_i hlabel
        obtain ⟨delivery, hstep, rfl⟩ := Option.map_eq_some_iff.mp taken
        exact .output label delivery hlabel hstep
      · cases taken

end Steps

end Tasks

end DaemonChoir.Conductor
