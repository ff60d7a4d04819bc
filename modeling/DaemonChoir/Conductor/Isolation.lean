import DaemonChoir.Common.Ieee
import DaemonChoir.Conductor.Aggregator
import DaemonChoir.Conductor.Db
import DaemonChoir.Conductor.Ringbuf
import DaemonChoir.Foundation.Sync
set_option autoImplicit false

/-!
# Conductor: storage behind the two loops

`RingbufConsumer::run` and `Aggregator::run` with everything that stores what they see:
the spawned insertions, the snapshot channel of `main` with the task behind it, and the
database.  What the loops receive, read and are answered comes from outside, so that two
runs can be compared that differ in storage only.

Each loop has an interface, the inputs it gets from outside, and a step function over the
interface alone (`ConsumerInput`, `AggregatorInput`).  A step of all tasks is a step of one
of the loops or is not seen by them, and the same inputs are possible whatever storage has
done in between (`enabled_beside`).  So a run without a database can be matched by one with
any database, any failure of its statements and any delay of its tasks, and the other way
round.

The database tap is the one thing the aggregator does for storage; it never waits and its
answer is not looked at.  What the two compared runs agree in is what leaves the loops: the
values of `shared_state`, the snapshots offered to the engine, and the end of each loop.
-/

namespace DaemonChoir.Conductor

open DaemonChoir.Common DaemonChoir.Foundation

/-- The capacity of `db_snapshots`. -/
abbrev dbSnapshotCapacity : Nat := 512

/-- Where `Aggregator::run` stands. -/
inductive AggregatorPc (F : Type) where
  /-- Before `select!`. -/
  | selecting
  /-- Before `shared_state.write()`. -/
  | publishing (snapshot : StateSnapshot F)
  /-- Before `tx.try_send(snapshot)`. -/
  | forwarding (snapshot : StateSnapshot F)
  /-- Before the database tap. -/
  | tapping (snapshot : StateSnapshot F)
  /-- The loop was left. -/
  | stopped
  deriving DecidableEq, Repr

/-- The loop was left. -/
def AggregatorPc.isStopped {F : Type} : AggregatorPc F → Bool
  | .stopped => true
  | _ => false

/-- The two loops and the storage behind them. -/
structure Tapped (F : Type) where
  consumer : RingbufConsumer
  aggregator : Aggregator F
  pc : AggregatorPc F
  sharedState : RwLock (StateSnapshot F)
  /-- The spawned insertions that have not run. -/
  spawned : List RawEvent
  dbTx : Option (Channel dbSnapshotCapacity (StateSnapshot F))
  /-- The snapshot that the task behind the channel has received. -/
  writing : Option (StateSnapshot F)
  db : Database F

/-- Which task moves, with what comes from outside. -/
inductive TappedLabel where
  /-- `rx.recv()` of the consumer has answered. -/
  | receive (maybeEvent : Option RawEvent)
  /-- `aggregator_tx.try_send(event)` has answered. -/
  | forward (answer : TrySend)
  /-- `rx.recv()` of the aggregator has answered. -/
  | aggregate (maybeEvent : Option RawEvent)
  /-- The interval up to `shared_state.write()`: the clock and the loss counter. -/
  | tick (nowUs lostEventsDelta : UInt64)
  /-- `shared_state.write()` -/
  | publish
  /-- `tx.try_send(snapshot)` has answered. -/
  | offer (answer : TrySend)
  /-- The database tap, and `current_window_events.clear()`. -/
  | tap
  /-- A spawned insertion runs. -/
  | insertEvent (position : ℕ) (answer : Answer)
  /-- `db_snapshots_rx.recv()` -/
  | takeSnapshot
  /-- `insert_snapshot` of the task behind the channel. -/
  | insertSnapshot (answer : Answer)
  /-- The task behind the channel is gone. -/
  | closeSnapshots
  /-- `purge_older_than` -/
  | purge (retention : Duration) (now : SystemTime) (events snapshots : Answer)
  /-- `wipe` -/
  | wipe (events snapshots : Answer)

section Window

variable {F : Type}

/-- `current_window_events.clear()`. -/
def Aggregator.clear (aggregator : Aggregator F) : Aggregator F :=
  { aggregator with currentWindowEvents := [] }

/-- The interval branch up to `shared_state.write()`: the window is still there. -/
def Aggregator.compute [Float64 F] (aggregator : Aggregator F)
    (nowUs lostEventsDelta : UInt64) : Option (Aggregator F × StateSnapshot F) :=
  (aggregator.tick nowUs lostEventsDelta).map fun (next, snapshot) =>
    ({ next with currentWindowEvents := aggregator.currentWindowEvents }, snapshot)

end Window

namespace Tapped

/-! ## The code -/

section Steps

variable {F : Type}

/-- The snapshot that `main` puts into `shared_state`. -/
def initialSnapshot [Float64 F] (windowMs : UInt64) : StateSnapshot F where
  timestampUs := 0
  windowMs := windowMs
  stale := true
  lostEvents := 0
  metrics := MetricMap.default

/-- The loops as `main` starts them, with any database and with or without a channel. -/
def started [Float64 F] (windowMs : UInt64) (db : Database F)
    (dbTx : Option (Channel dbSnapshotCapacity (StateSnapshot F))) : Tapped F where
  consumer := .receiving
  aggregator := .new windowMs
  pc := .selecting
  sharedState := .new (initialSnapshot windowMs)
  spawned := []
  dbTx := dbTx
  writing := none
  db := db

/-- The consumer receives, and spawns the insertion of what it has received. -/
def receive (tapped : Tapped F) (maybeEvent : Option RawEvent) : Option (Tapped F) :=
  match tapped.consumer.received maybeEvent with
  | none => none
  | some (consumer, inserted) =>
      some { tapped with
        consumer := consumer
        spawned := tapped.spawned ++ inserted.toList }

/-- The consumer forwards. -/
def forward (tapped : Tapped F) (answer : TrySend) : Option (Tapped F) :=
  match tapped.consumer.forwarded answer with
  | none => none
  | some consumer => some { tapped with consumer := consumer }

/-- The aggregator leaves its loop and drops its end of the snapshot channel. -/
def stopAggregator (tapped : Tapped F) : Tapped F :=
  { tapped with pc := .stopped, dbTx := tapped.dbTx.map Channel.dropSenders }

/-- The aggregator receives. -/
def aggregate (tapped : Tapped F) (maybeEvent : Option RawEvent) : Option (Tapped F) :=
  match tapped.pc, maybeEvent with
  | .selecting, some event =>
      some { tapped with aggregator := tapped.aggregator.push event }
  | .selecting, none => some tapped.stopAggregator
  | _, _ => none

/-- The aggregator writes `shared_state`, unless the lock is poisoned. -/
def publish (tapped : Tapped F) : Option (Tapped F) :=
  match tapped.pc with
  | .publishing snapshot =>
      some { tapped with
        sharedState := tapped.sharedState.write fun _ => snapshot
        pc := .forwarding snapshot }
  | _ => none

/-- The aggregator offers the snapshot to the mapping engine. -/
def offer (tapped : Tapped F) (answer : TrySend) : Option (Tapped F) :=
  match tapped.pc, answer with
  | .forwarding _, .closed => some tapped.stopAggregator
  | .forwarding snapshot, _ => some { tapped with pc := .tapping snapshot }
  | _, _ => none

/-- The aggregator taps the snapshot, whatever the channel answers, and clears the
window. -/
def tap (tapped : Tapped F) : Option (Tapped F) :=
  match tapped.pc with
  | .tapping snapshot =>
      some { tapped with
        dbTx := tapped.dbTx.map fun channel => (channel.trySend snapshot).2
        aggregator := tapped.aggregator.clear
        pc := .selecting }
  | _ => none

/-- A spawned insertion runs. -/
def insertEvent (tapped : Tapped F) (position : ℕ) (answer : Answer) : Option (Tapped F) :=
  match tapped.spawned[position]? with
  | none => none
  | some event =>
      some { tapped with
        spawned := tapped.spawned.eraseIdx position
        db := tapped.db.insertEvent event answer }

/-- The task behind the channel receives. -/
def takeSnapshot (tapped : Tapped F) : Option (Tapped F) :=
  match tapped.writing, tapped.dbTx with
  | none, some channel =>
      if channel.receiverGone then none
      else
        match channel.recv with
        | .item snapshot rest =>
            some { tapped with writing := some snapshot, dbTx := some rest }
        | .ended => some { tapped with dbTx := some channel.dropReceiver }
        | .pending => none
  | _, _ => none

/-- The task behind the channel inserts. -/
def insertSnapshot (tapped : Tapped F) (answer : Answer) : Option (Tapped F) :=
  match tapped.writing with
  | none => none
  | some snapshot =>
      some { tapped with
        writing := none
        db := tapped.db.insertSnapshot snapshot answer }

variable [Float64 F]

/-- A tick up to the write of `shared_state`. -/
def tick (tapped : Tapped F) (nowUs lostEventsDelta : UInt64) : Option (Tapped F) :=
  match tapped.pc with
  | .selecting =>
      match tapped.aggregator.compute nowUs lostEventsDelta with
      | none => none
      | some (next, snapshot) =>
          some { tapped with aggregator := next, pc := .publishing snapshot }
  | _ => none

/-- One step of one task. -/
def step (tapped : Tapped F) : TappedLabel → Option (Tapped F)
  | .receive maybeEvent => tapped.receive maybeEvent
  | .forward answer => tapped.forward answer
  | .aggregate maybeEvent => tapped.aggregate maybeEvent
  | .tick nowUs lostEventsDelta => tapped.tick nowUs lostEventsDelta
  | .publish => tapped.publish
  | .offer answer => tapped.offer answer
  | .tap => tapped.tap
  | .insertEvent position answer => tapped.insertEvent position answer
  | .takeSnapshot => tapped.takeSnapshot
  | .insertSnapshot answer => tapped.insertSnapshot answer
  | .closeSnapshots =>
      some { tapped with dbTx := tapped.dbTx.map Channel.dropReceiver, writing := none }
  | .purge retention now events snapshots =>
      some { tapped with db := tapped.db.purgeOlderThan retention now events snapshots }
  | .wipe events snapshots =>
      some { tapped with db := (tapped.db.wipe events snapshots).2 }

end Steps

end Tapped

/-! ## The loops without storage -/

/-- What the consumer is told. -/
inductive ConsumerInput where
  | receive (maybeEvent : Option RawEvent)
  | forward (answer : TrySend)
  deriving DecidableEq, Repr

/-- The consumer's loop with the insertion cut out. -/
def RingbufConsumer.step (consumer : RingbufConsumer) : ConsumerInput → Option RingbufConsumer
  | .receive maybeEvent => (consumer.received maybeEvent).map Prod.fst
  | .forward answer => consumer.forwarded answer

/-- What the aggregator is told, and its own operations. -/
inductive AggregatorInput where
  | receive (maybeEvent : Option RawEvent)
  | tick (nowUs lostEventsDelta : UInt64)
  | publish
  | offer (answer : TrySend)
  | turn
  deriving DecidableEq, Repr

/-- The aggregator's loop and the cell it publishes in. -/
structure AggregatorLoop (F : Type) where
  aggregator : Aggregator F
  pc : AggregatorPc F
  sharedState : RwLock (StateSnapshot F)
  deriving DecidableEq, Repr

/-- The aggregator's loop with the database tap cut out. -/
def AggregatorLoop.step {F : Type} [Float64 F] (loop : AggregatorLoop F) :
    AggregatorInput → Option (AggregatorLoop F)
  | .receive maybeEvent =>
      match loop.pc, maybeEvent with
      | .selecting, some event => some { loop with aggregator := loop.aggregator.push event }
      | .selecting, none => some { loop with pc := .stopped }
      | _, _ => none
  | .tick nowUs lostEventsDelta =>
      match loop.pc with
      | .selecting =>
          (loop.aggregator.compute nowUs lostEventsDelta).map fun (next, snapshot) =>
            { loop with aggregator := next, pc := .publishing snapshot }
      | _ => none
  | .publish =>
      match loop.pc with
      | .publishing snapshot =>
          some { loop with
            sharedState := loop.sharedState.write fun _ => snapshot
            pc := .forwarding snapshot }
      | _ => none
  | .offer answer =>
      match loop.pc, answer with
      | .forwarding _, .closed => some { loop with pc := .stopped }
      | .forwarding snapshot, _ => some { loop with pc := .tapping snapshot }
      | _, _ => none
  | .turn =>
      match loop.pc with
      | .tapping _ => some { loop with aggregator := loop.aggregator.clear, pc := .selecting }
      | _ => none

/-- What the loop writes to `shared_state`. -/
def AggregatorLoop.written {F : Type} :
    AggregatorLoop F × AggregatorInput → Option (StateSnapshot F)
  | (loop, .publish) =>
      match loop.pc with
      | .publishing snapshot => if loop.sharedState.poisoned then none else some snapshot
      | _ => none
  | _ => none

/-- What the loop offers to the mapping engine. -/
def AggregatorLoop.offered {F : Type} :
    AggregatorLoop F × AggregatorInput → Option (StateSnapshot F)
  | (loop, .offer _) =>
      match loop.pc with
      | .forwarding snapshot => some snapshot
      | _ => none
  | _ => none

namespace Tapped

section Views

variable {F : Type}

/-- What a step tells the consumer. -/
def consumerInput : TappedLabel → Option ConsumerInput
  | .receive maybeEvent => some (.receive maybeEvent)
  | .forward answer => some (.forward answer)
  | _ => none

/-- What a step tells the aggregator. -/
def aggregatorInput : TappedLabel → Option AggregatorInput
  | .aggregate maybeEvent => some (.receive maybeEvent)
  | .tick nowUs lostEventsDelta => some (.tick nowUs lostEventsDelta)
  | .publish => some .publish
  | .offer answer => some (.offer answer)
  | .tap => some .turn
  | _ => none

/-- The aggregator's part of the state. -/
def loop (tapped : Tapped F) : AggregatorLoop F :=
  { aggregator := tapped.aggregator, pc := tapped.pc, sharedState := tapped.sharedState }

/-! ## What a step does to the views -/

variable [Float64 F] {tapped next : Tapped F} {label : TappedLabel}

/-- A step of the consumer is one of its loop. -/
theorem consumer_step {input : ConsumerInput} (hinput : consumerInput label = some input)
    (taken : tapped.step label = some next) :
    tapped.consumer.step input = some next.consumer ∧ next.loop = tapped.loop := by
  cases label with
  | receive maybeEvent =>
      obtain rfl := Option.some.inj hinput
      simp only [step, receive] at taken
      split at taken
      · cases taken
      · rename_i consumer inserted hreceived
        cases taken
        exact ⟨by rw [RingbufConsumer.step, hreceived]; rfl, rfl⟩
  | forward answer =>
      obtain rfl := Option.some.inj hinput
      simp only [step, forward] at taken
      split at taken
      · cases taken
      · rename_i consumer hforwarded
        cases taken
        exact ⟨hforwarded, rfl⟩
  | _ => cases hinput

/-- A step of the aggregator is one of its loop. -/
theorem aggregator_step {input : AggregatorInput}
    (hinput : aggregatorInput label = some input) (taken : tapped.step label = some next) :
    tapped.loop.step input = some next.loop ∧ next.consumer = tapped.consumer := by
  cases label with
  | aggregate maybeEvent =>
      obtain rfl := Option.some.inj hinput
      simp only [step, aggregate] at taken
      split at taken
      · rename_i event hpc
        cases taken
        exact ⟨by simp [AggregatorLoop.step, loop, hpc], rfl⟩
      · rename_i hpc
        cases taken
        exact ⟨by simp [AggregatorLoop.step, loop, stopAggregator, hpc], rfl⟩
      · cases taken
  | tick nowUs lostEventsDelta =>
      obtain rfl := Option.some.inj hinput
      simp only [step, tick] at taken
      split at taken
      · rename_i hpc
        split at taken
        · cases taken
        · rename_i window snapshot hcompute
          cases taken
          exact ⟨by simp [AggregatorLoop.step, loop, hpc, hcompute], rfl⟩
      · cases taken
  | publish =>
      obtain rfl := Option.some.inj hinput
      simp only [step, publish] at taken
      split at taken
      · rename_i snapshot hpc
        cases taken
        exact ⟨by simp [AggregatorLoop.step, loop, hpc], rfl⟩
      · cases taken
  | offer answer =>
      obtain rfl := Option.some.inj hinput
      simp only [step, offer] at taken
      split at taken
      · rename_i snapshot hpc
        cases taken
        exact ⟨by simp [AggregatorLoop.step, loop, stopAggregator, hpc], rfl⟩
      · rename_i snapshot hpc hanswer
        cases taken
        exact ⟨by simp [AggregatorLoop.step, loop, hpc], rfl⟩
      · cases taken
  | tap =>
      obtain rfl := Option.some.inj hinput
      simp only [step, tap] at taken
      split at taken
      · rename_i snapshot hpc
        cases taken
        exact ⟨by simp [AggregatorLoop.step, loop, hpc], rfl⟩
      · cases taken
  | _ => cases hinput

/-- A step of storage leaves both loops alone. -/
theorem storage_step (hconsumer : consumerInput label = none)
    (haggregator : aggregatorInput label = none) (taken : tapped.step label = some next) :
    next.consumer = tapped.consumer ∧ next.loop = tapped.loop := by
  cases label with
  | insertEvent position answer =>
      simp only [step, insertEvent] at taken
      split at taken
      · cases taken
      · cases taken
        exact ⟨rfl, rfl⟩
  | takeSnapshot =>
      simp only [step, takeSnapshot] at taken
      split at taken
      · split at taken
        · cases taken
        · split at taken
          · cases taken
            exact ⟨rfl, rfl⟩
          · cases taken
            exact ⟨rfl, rfl⟩
          · cases taken
      · cases taken
  | insertSnapshot answer =>
      simp only [step, insertSnapshot] at taken
      split at taken
      · cases taken
      · cases taken
        exact ⟨rfl, rfl⟩
  | closeSnapshots =>
      cases taken
      exact ⟨rfl, rfl⟩
  | purge retention now events snapshots =>
      cases taken
      exact ⟨rfl, rfl⟩
  | wipe events snapshots =>
      cases taken
      exact ⟨rfl, rfl⟩
  | receive maybeEvent => cases hconsumer
  | forward answer => cases hconsumer
  | _ => cases haggregator

theorem consumer_hidden (hconsumer : consumerInput label = none)
    (taken : tapped.step label = some next) : next.consumer = tapped.consumer := by
  cases haggregator : aggregatorInput label with
  | none => exact (storage_step hconsumer haggregator taken).1
  | some input => exact (aggregator_step haggregator taken).2

theorem loop_hidden (haggregator : aggregatorInput label = none)
    (taken : tapped.step label = some next) : next.loop = tapped.loop := by
  cases hconsumer : consumerInput label with
  | none => exact (storage_step hconsumer haggregator taken).2
  | some input => exact (consumer_step hconsumer taken).2

/-- Storage blocks neither loop: a step that a loop takes beside one storage is enabled
beside any other. -/
theorem enabled_beside {other : Tapped F} (hconsumer : other.consumer = tapped.consumer)
    (hloop : other.loop = tapped.loop)
    (hlabel : (consumerInput label).isSome = true ∨ (aggregatorInput label).isSome = true)
    (taken : tapped.step label = some next) : ∃ next', other.step label = some next' := by
  have hpc : other.pc = tapped.pc := congrArg AggregatorLoop.pc hloop
  have hwindow : other.aggregator = tapped.aggregator :=
    congrArg AggregatorLoop.aggregator hloop
  cases label with
  | receive maybeEvent =>
      simp only [step, receive, hconsumer] at taken ⊢
      split at taken
      · cases taken
      · exact ⟨_, rfl⟩
  | forward answer =>
      simp only [step, forward, hconsumer] at taken ⊢
      split at taken
      · cases taken
      · exact ⟨_, rfl⟩
  | aggregate maybeEvent =>
      simp only [step, aggregate, hpc] at taken ⊢
      split at taken
      · exact ⟨_, rfl⟩
      · exact ⟨_, rfl⟩
      · cases taken
  | tick nowUs lostEventsDelta =>
      simp only [step, tick, hpc, hwindow] at taken ⊢
      split at taken
      · split at taken
        · cases taken
        · exact ⟨_, rfl⟩
      · cases taken
  | publish =>
      simp only [step, publish, hpc] at taken ⊢
      split at taken
      · exact ⟨_, rfl⟩
      · cases taken
  | offer answer =>
      simp only [step, offer, hpc] at taken ⊢
      split at taken
      · exact ⟨_, rfl⟩
      · exact ⟨_, rfl⟩
      · cases taken
  | tap =>
      simp only [step, tap, hpc] at taken ⊢
      split at taken
      · exact ⟨_, rfl⟩
      · cases taken
  | _ => rcases hlabel with hlabel | hlabel <;> cases hlabel

/-- What a loop does beside one storage it can do beside any other. -/
theorem step_beside {other : Tapped F} (hconsumer : other.consumer = tapped.consumer)
    (hloop : other.loop = tapped.loop)
    (hlabel : (consumerInput label).isSome = true ∨ (aggregatorInput label).isSome = true)
    (taken : tapped.step label = some next) :
    ∃ next', other.step label = some next' ∧ next'.consumer = next.consumer ∧
      next'.loop = next.loop := by
  obtain ⟨next', htaken⟩ := enabled_beside hconsumer hloop hlabel taken
  refine ⟨next', htaken, ?_⟩
  -- each view moves by its own step function, or not at all
  cases hinput : consumerInput label with
  | some input =>
      obtain ⟨hleft, hleftLoop⟩ := consumer_step hinput taken
      obtain ⟨hright, hrightLoop⟩ := consumer_step hinput htaken
      rw [hconsumer, hleft] at hright
      exact ⟨(Option.some.inj hright).symm, by rw [hrightLoop, hleftLoop, hloop]⟩
  | none =>
      cases hturn : aggregatorInput label with
      | some input =>
          obtain ⟨hleft, hleftConsumer⟩ := aggregator_step hturn taken
          obtain ⟨hright, hrightConsumer⟩ := aggregator_step hturn htaken
          rw [hloop, hleft] at hright
          exact ⟨by rw [hrightConsumer, hleftConsumer, hconsumer],
            (Option.some.inj hright).symm⟩
      | none =>
          rw [hinput, hturn] at hlabel
          rcases hlabel with hlabel | hlabel <;> cases hlabel

end Views

/-! ## Two runs -/

section Runs

variable {F : Type}

/-- What the consumer is told in a run. -/
def consumerInputs (trace : List (Tapped F × TappedLabel)) : List ConsumerInput :=
  (trace.map Prod.snd).filterMap consumerInput

/-- What the aggregator is told in a run. -/
def aggregatorInputs (trace : List (Tapped F × TappedLabel)) : List AggregatorInput :=
  (trace.map Prod.snd).filterMap aggregatorInput

/-- A snapshot is written to `shared_state`. -/
def published : Tapped F × TappedLabel → Option (StateSnapshot F)
  | (tapped, .publish) =>
      match tapped.pc with
      | .publishing snapshot => if tapped.sharedState.poisoned then none else some snapshot
      | _ => none
  | _ => none

/-- A snapshot is offered to the mapping engine. -/
def offered : Tapped F × TappedLabel → Option (StateSnapshot F)
  | (tapped, .offer _) =>
      match tapped.pc with
      | .forwarding snapshot => some snapshot
      | _ => none
  | _ => none

theorem published_eq (visit : Tapped F × TappedLabel) :
    published visit =
      (aggregatorInput visit.2).bind fun input => AggregatorLoop.written (visit.1.loop, input) := by
  obtain ⟨tapped, label⟩ := visit
  cases label <;> rfl

theorem offered_eq (visit : Tapped F × TappedLabel) :
    offered visit =
      (aggregatorInput visit.2).bind fun input => AggregatorLoop.offered (visit.1.loop, input) := by
  obtain ⟨tapped, label⟩ := visit
  cases label <;> rfl

/-- How many steps the consumer takes before it leaves its loop. -/
def consumerStop (trace : List (Tapped F × TappedLabel)) (final : Tapped F) : ℕ :=
  Run.stepsUntil consumer consumerInput (fun consumer => decide (consumer = .stopped)) trace
    final

/-- How many steps the aggregator takes before it leaves its loop. -/
def aggregatorStop (trace : List (Tapped F × TappedLabel)) (final : Tapped F) : ℕ :=
  Run.stepsUntil loop aggregatorInput (fun loop => loop.pc.isStopped) trace final

variable [Float64 F] {windowMs : UInt64} {leftDb rightDb : Database F}
  {leftTx rightTx : Option (Channel dbSnapshotCapacity (StateSnapshot F))}
  {leftTrace rightTrace : List (Tapped F × TappedLabel)} {left right : Tapped F}

theorem loop_project_eq (leftRun : Run step (started windowMs leftDb leftTx) leftTrace left)
    (rightRun : Run step (started windowMs rightDb rightTx) rightTrace right)
    (haggregator : aggregatorInputs leftTrace = aggregatorInputs rightTrace) :
    Run.project loop aggregatorInput leftTrace = Run.project loop aggregatorInput rightTrace ∧
      left.loop = right.loop :=
  Run.project_eq loop_hidden (fun hinput taken => (aggregator_step hinput taken).1) leftRun
    rightRun rfl haggregator

/-- Storage never influences what is published, what is offered, and when a loop ends. -/
theorem storage_isolated (leftRun : Run step (started windowMs leftDb leftTx) leftTrace left)
    (rightRun : Run step (started windowMs rightDb rightTx) rightTrace right)
    (hconsumer : consumerInputs leftTrace = consumerInputs rightTrace)
    (haggregator : aggregatorInputs leftTrace = aggregatorInputs rightTrace) :
    leftTrace.filterMap published = rightTrace.filterMap published ∧
      leftTrace.filterMap offered = rightTrace.filterMap offered ∧
      consumerStop leftTrace left = consumerStop rightTrace right ∧
      aggregatorStop leftTrace left = aggregatorStop rightTrace right := by
  obtain ⟨hconsumers, hconsumerEnd⟩ :=
    Run.project_eq consumer_hidden (fun hinput taken => (consumer_step hinput taken).1)
      leftRun rightRun rfl hconsumer
  obtain ⟨hloops, hloopEnd⟩ := loop_project_eq leftRun rightRun haggregator
  refine ⟨?_, ?_, ?_, ?_⟩
  · rw [Run.filterMap_project published_eq, Run.filterMap_project published_eq, hloops]
  · rw [Run.filterMap_project offered_eq, Run.filterMap_project offered_eq, hloops]
  · rw [consumerStop, consumerStop, Run.stepsUntil, Run.stepsUntil, hconsumers, hconsumerEnd]
  · rw [aggregatorStop, aggregatorStop, Run.stepsUntil, Run.stepsUntil, hloops, hloopEnd]

/-- Whatever the loops do beside one storage, they can do beside any other. -/
theorem exists_run_beside
    (run : Run step (started windowMs leftDb leftTx) leftTrace left) (rightDb : Database F)
    (rightTx : Option (Channel dbSnapshotCapacity (StateSnapshot F))) :
    ∃ rightTrace right, Run step (started windowMs rightDb rightTx) rightTrace right ∧
      consumerInputs rightTrace = consumerInputs leftTrace ∧
      aggregatorInputs rightTrace = aggregatorInputs leftTrace ∧
      right.consumer = left.consumer ∧ right.loop = left.loop := by
  induction run with
  | nil => exact ⟨[], _, .nil, rfl, rfl, rfl, rfl⟩
  | @snoc trace before next label _ taken ih =>
      obtain ⟨rightTrace, right, hrun, hconsumers, haggregators, hconsumer, hloop⟩ := ih
      by_cases hlabel :
          (consumerInput label).isSome = true ∨ (aggregatorInput label).isSome = true
      · obtain ⟨after, htaken, hafter, hafterLoop⟩ :=
          step_beside hconsumer hloop hlabel taken
        refine ⟨_, after, hrun.snoc htaken, ?_, ?_, hafter, hafterLoop⟩
        · simp only [consumerInputs, List.map_append, List.filterMap_append] at hconsumers ⊢
          rw [hconsumers]
          rfl
        · simp only [aggregatorInputs, List.map_append, List.filterMap_append] at haggregators ⊢
          rw [haggregators]
          rfl
      · -- a step of storage on the one side needs none on the other
        rw [not_or, Option.not_isSome_iff_eq_none, Option.not_isSome_iff_eq_none] at hlabel
        obtain ⟨hnoConsumer, hnoAggregator⟩ := hlabel
        obtain ⟨hsame, hsameLoop⟩ := storage_step hnoConsumer hnoAggregator taken
        refine ⟨rightTrace, right, hrun, ?_, ?_, hconsumer.trans hsame.symm,
          hloop.trans hsameLoop.symm⟩
        · rw [hconsumers]
          simp [consumerInputs, hnoConsumer]
        · rw [haggregators]
          simp [aggregatorInputs, hnoAggregator]

end Runs

/-! ## A healthy store beside none -/

/-- A process was started. -/
def sentEvent : RawEvent :=
  { probe := .procLifecycle, timestampNs := 1
    payload := .procLifecycle { commHash := 1, uidHash := 1 } }

/-- One event and one tick. -/
def oneTick : List TappedLabel :=
  [.receive (some sentEvent), .forward .ok, .aggregate (some sentEvent), .tick 1000000 0,
    .publish, .offer .ok, .tap]

/-- With a store that takes the event and fails on the snapshot, and with none at all, the
same snapshot goes out. -/
theorem storage_isolated_failing :
    ∃ leftTrace left rightTrace right,
      Run step (started 50 ⟨some .sqlite, ⟨[], []⟩⟩
        (some (.empty dbSnapshotCapacity (StateSnapshot Ieee)))) leftTrace left ∧
      Run step (started 50 ⟨none, ⟨[], []⟩⟩ none) rightTrace right ∧
      left.db.conn = none ∧ left.db.file.events.length = 1 ∧
      (rightTrace.filterMap offered).length = 1 ∧
      leftTrace.filterMap offered = rightTrace.filterMap offered := by
  have leftRun : Run step (started 50 ⟨some .sqlite, ⟨[], []⟩⟩
      (some (.empty dbSnapshotCapacity (StateSnapshot Ieee)))) _ _ :=
    execute_sound (oneTick ++ [.insertEvent 0 none, .takeSnapshot,
      .insertSnapshot (some ⟨"disk I/O error"⟩)]) rfl
  have rightRun : Run step (started (F := Ieee) 50 ⟨none, ⟨[], []⟩⟩ none) _ _ :=
    execute_sound oneTick rfl
  exact ⟨_, _, _, _, leftRun, rightRun, rfl, rfl, rfl,
    (storage_isolated leftRun rightRun rfl rfl).2.1⟩

end Tapped

end DaemonChoir.Conductor
