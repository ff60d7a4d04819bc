import DaemonChoir.Conductor.Tasks
set_option autoImplicit false

/-!
# Conductor: who holds which end of a channel

A task owns its channel ends until it leaves its loop, and nothing but the other end of a
channel tells a task to leave.  In every reachable state the ends that were dropped are
therefore those of the loops that were left.

The invariant has one equivalence for each end of each channel.  A step keeps it because a
task drops its ends in the step in which it leaves its loop, and in no other: the lemmas
below go through the tasks one after the other, and the step lemma puts them together.

Two steps that the source provides for are shown never to happen here.  The consumer does
not meet the end of the raw channel, whose last sender belongs to `ProbeManager`; and the
aggregator does not meet the end of its own, because the consumer gives its sender up only
when the aggregator is gone.
-/

namespace DaemonChoir.Conductor

open DaemonChoir.Common DaemonChoir.Foundation

/-! ## Behind the aggregator -/

namespace Delivery

section Ends

variable {F : Type}

/-- The ends that were dropped behind the aggregator, and who dropped them. -/
structure Wired (delivery : Delivery F) : Prop where
  snapshotsSenders : delivery.snapshots.sendersGone = true ↔ delivery.aggregating = false
  snapshotsReceiver : delivery.snapshots.receiverGone = true ↔ delivery.engine = .stopped
  paramsSenders : delivery.mappedParams.sendersGone = true ↔ delivery.engine = .stopped
  paramsReceiver :
    delivery.mappedParams.receiverGone = true ↔ delivery.dispatcher = .stopped
  /-- The aggregator learns it from the engine. -/
  aggregator : delivery.aggregating = false → delivery.engine = .stopped
  /-- The dispatcher learns it from the engine. -/
  dispatcher : delivery.dispatcher = .stopped → delivery.engine = .stopped

/-- No end was dropped and no loop left in between. -/
structure SameEnds (delivery next : Delivery F) : Prop where
  snapshotsSenders : next.snapshots.sendersGone = delivery.snapshots.sendersGone
  snapshotsReceiver : next.snapshots.receiverGone = delivery.snapshots.receiverGone
  paramsSenders : next.mappedParams.sendersGone = delivery.mappedParams.sendersGone
  paramsReceiver : next.mappedParams.receiverGone = delivery.mappedParams.receiverGone
  aggregating : next.aggregating = delivery.aggregating
  engine : next.engine = .stopped ↔ delivery.engine = .stopped
  dispatcher : next.dispatcher = .stopped ↔ delivery.dispatcher = .stopped

variable {delivery next : Delivery F}

theorem Wired.of_sameEnds (wired : delivery.Wired) (same : SameEnds delivery next) :
    next.Wired where
  snapshotsSenders := by
    rw [same.snapshotsSenders, same.aggregating]
    exact wired.snapshotsSenders
  snapshotsReceiver := by
    rw [same.snapshotsReceiver, same.engine]
    exact wired.snapshotsReceiver
  paramsSenders := by
    rw [same.paramsSenders, same.engine]
    exact wired.paramsSenders
  paramsReceiver := by
    rw [same.paramsReceiver, same.dispatcher]
    exact wired.paramsReceiver
  aggregator := by
    rw [same.aggregating, same.engine]
    exact wired.aggregator
  dispatcher := by
    rw [same.dispatcher, same.engine]
    exact wired.dispatcher

theorem Wired.stopEngine (wired : delivery.Wired) : delivery.stopEngine.Wired where
  snapshotsSenders := wired.snapshotsSenders
  snapshotsReceiver := iff_of_true rfl rfl
  paramsSenders := iff_of_true rfl rfl
  paramsReceiver := wired.paramsReceiver
  aggregator _ := rfl
  dispatcher _ := rfl

/-- Receiving leaves both ends of the snapshot channel as they were, unless every sender
is gone. -/
theorem Wired.receiveSnapshot (wired : delivery.Wired)
    (taken : delivery.receiveSnapshot = some next) : next.Wired := by
  unfold Delivery.receiveSnapshot at taken
  split at taken
  · rename_i hengine
    split at taken
    · rename_i snapshot rest hrecv
      obtain ⟨_, hreceiver, hsenders⟩ := Channel.recv_item hrecv
      cases taken
      exact wired.of_sameEnds
        ⟨hsenders, hreceiver, rfl, rfl, rfl, by simp [hengine], Iff.rfl⟩
    · cases taken
      exact wired.stopEngine
    · cases taken
  · cases taken

theorem Wired.sendParams (wired : delivery.Wired) (taken : delivery.sendParams = some next) :
    next.Wired := by
  unfold Delivery.sendParams at taken
  split at taken
  · rename_i params hengine
    rcases hsend : delivery.mappedParams.trySend params with ⟨answer, after⟩
    obtain ⟨hreceiver, hsenders⟩ := Channel.trySend_ends hsend
    rw [hsend] at taken
    cases answer with
    | closed =>
        cases taken
        exact wired.stopEngine
    | _ =>
        cases taken
        exact wired.of_sameEnds
          ⟨rfl, rfl, hsenders, hreceiver, rfl, by simp [hengine], Iff.rfl⟩
  · cases taken

/-- The dispatcher leaves its loop when the engine has left its own. -/
theorem Wired.receiveParams (wired : delivery.Wired)
    (taken : delivery.receiveParams = some next) : next.Wired := by
  unfold Delivery.receiveParams at taken
  split at taken
  · rename_i hdispatcher
    split at taken
    · rename_i params rest hrecv
      obtain ⟨_, hreceiver, hsenders⟩ := Channel.recv_item hrecv
      split at taken
      · cases taken
        exact wired.of_sameEnds
          ⟨rfl, rfl, hsenders, hreceiver, rfl, Iff.rfl, Iff.rfl⟩
      · cases taken
        exact wired.of_sameEnds
          ⟨rfl, rfl, hsenders, hreceiver, rfl, Iff.rfl, by simp [hdispatcher]⟩
    · rename_i hended
      obtain ⟨_, hsenders⟩ := Channel.recv_ended_iff.mp hended
      cases taken
      exact ⟨wired.snapshotsSenders, wired.snapshotsReceiver, wired.paramsSenders,
        iff_of_true rfl rfl, wired.aggregator, fun _ => wired.paramsSenders.mp hsenders⟩
    · cases taken
  · cases taken

variable [Float64 F] [Libm F] {encode : OscBundle F → Option (List UInt8)}
  {label : DeliveryLabel F}

/-- A step of the engine, the dispatcher or a handler. -/
theorem Wired.output (wired : delivery.Wired) (hlabel : label.movesOutput = true)
    (taken : delivery.step encode label = some next) : next.Wired := by
  cases label with
  | receiveSnapshot => exact wired.receiveSnapshot taken
  | sendParams => exact wired.sendParams taken
  | receiveParams => exact wired.receiveParams taken
  | readRules =>
      cases step_moves taken with
      | rulesPoisoned snapshot hengine =>
          exact wired.of_sameEnds ⟨rfl, rfl, rfl, rfl, rfl, by simp [hengine], Iff.rfl⟩
      | mapPanicked => exact wired.stopEngine
      | mapped snapshot params hengine =>
          exact wired.of_sameEnds ⟨rfl, rfl, rfl, rfl, rfl, by simp [hengine], Iff.rfl⟩
  | readBackends =>
      cases step_moves taken with
      | backendsPoisoned params hdispatcher =>
          exact wired.of_sameEnds ⟨rfl, rfl, rfl, rfl, rfl, Iff.rfl, by simp [hdispatcher]⟩
      | stamping params hdispatcher =>
          exact wired.of_sameEnds ⟨rfl, rfl, rfl, rfl, rfl, Iff.rfl, by simp [hdispatcher]⟩
  | stamp now =>
      cases step_moves taken with
      | encodeFailed _ params backends hdispatcher =>
          exact wired.of_sameEnds ⟨rfl, rfl, rfl, rfl, rfl, Iff.rfl, by simp [hdispatcher]⟩
      | stamped _ params backends packet hdispatcher =>
          exact wired.of_sameEnds ⟨rfl, rfl, rfl, rfl, rfl, Iff.rfl, by simp [hdispatcher]⟩
  | offer =>
      cases step_moves taken with
      | offered origin packet backend rest hdispatcher =>
          exact wired.of_sameEnds ⟨rfl, rfl, rfl, rfl, rfl, Iff.rfl, by simp [hdispatcher]⟩
  | sendTo ok =>
      cases step_moves taken with
      | sendToOk origin packet backend rest hdispatcher =>
          exact wired.of_sameEnds ⟨rfl, rfl, rfl, rfl, rfl, Iff.rfl, by simp [hdispatcher]⟩
      | sendToErr origin packet backend rest hdispatcher =>
          exact wired.of_sameEnds ⟨rfl, rfl, rfl, rfl, rfl, Iff.rfl, by simp [hdispatcher]⟩
  | credit =>
      cases step_moves taken with
      | credited origin packet rest hdispatcher =>
          exact wired.of_sameEnds ⟨rfl, rfl, rfl, rfl, rfl, Iff.rfl, by simp [hdispatcher]⟩
  | readClock nowUs =>
      cases step_moves taken with
      | clockRead _ origin packet hdispatcher =>
          exact wired.of_sameEnds ⟨rfl, rfl, rfl, rfl, rfl, Iff.rfl, by simp [hdispatcher]⟩
  | load =>
      cases step_moves taken with
      | loadNone origin nowUs hdispatcher =>
          exact wired.of_sameEnds ⟨rfl, rfl, rfl, rfl, rfl, Iff.rfl, by simp [hdispatcher]⟩
      | loadSome origin nowUs ms hdispatcher =>
          exact wired.of_sameEnds ⟨rfl, rfl, rfl, rfl, rfl, Iff.rfl, by simp [hdispatcher]⟩
  | record =>
      cases step_moves taken with
      | recorded operation rest hdispatcher =>
          refine wired.of_sameEnds ⟨rfl, rfl, rfl, rfl, rfl, Iff.rfl, ?_⟩
          cases rest <;> simp [hdispatcher]
  | write write =>
      cases taken
      exact wired.of_sameEnds ⟨rfl, rfl, rfl, rfl, rfl, Iff.rfl, Iff.rfl⟩
  | _ => cases hlabel

theorem output_frame (hlabel : label.movesOutput = true)
    (taken : delivery.step encode label = some next) :
    next.aggregator = delivery.aggregator ∧ next.ticking = delivery.ticking ∧
      next.aggregating = delivery.aggregating ∧ next.emissions = delivery.emissions ∧
      next.snapshotTimestampUs = delivery.snapshotTimestampUs := by
  cases step_moves taken with
  | pushed => cases hlabel
  | ticked => cases hlabel
  | emitOk => cases hlabel
  | emitFull => cases hlabel
  | emitClosed => cases hlabel
  | _ => exact ⟨rfl, rfl, rfl, rfl, rfl⟩

end Ends

end Delivery

/-! ## All tasks -/

namespace Tasks

section Ends

variable {ι F : Type}

/-- The ends that were dropped, and who dropped them. -/
structure Wired (tasks : Tasks ι F) : Prop where
  /-- `ProbeManager` keeps its sender. -/
  rawSenders : tasks.rawEvents.sendersGone = false
  rawReceiver : tasks.rawEvents.receiverGone = true ↔ tasks.tapped.consumer = .stopped
  aggSenders : tasks.aggEvents.sendersGone = true ↔ tasks.tapped.consumer = .stopped
  aggReceiver : tasks.aggEvents.receiverGone = true ↔ tasks.tapped.pc.isStopped = true
  /-- The consumer learns it from the aggregator. -/
  consumer : tasks.tapped.consumer = .stopped → tasks.tapped.pc.isStopped = true
  dbSenders : ∀ channel, tasks.tapped.dbTx = some channel →
    (channel.sendersGone = true ↔ tasks.tapped.pc.isStopped = true)
  /-- The writer of the snapshots learns it from the aggregator. -/
  dbReceiver : ∀ channel, tasks.tapped.dbTx = some channel →
    channel.receiverGone = true → tasks.tapped.pc.isStopped = true
  output : tasks.delivery.Wired

theorem wired_started [Float64 F] (kinds : ι → ProbeKind) (config : Config F)
    (db : Database F) : (started kinds config db).Wired where
  rawSenders := rfl
  rawReceiver := by simp [started, Tapped.started]
  aggSenders := by simp [started, Tapped.started]
  aggReceiver := by simp [started, Tapped.started, AggregatorPc.isStopped]
  consumer := by simp [started, Tapped.started]
  dbSenders := by
    intro channel hchannel
    cases hchannel
    simp [started, Tapped.started, AggregatorPc.isStopped]
  dbReceiver := by
    intro channel hchannel
    cases hchannel
    simp
  output := by
    constructor <;>
      simp [delivery, started, Tapped.started, AggregatorPc.isStopped]

/-! ### Steps of the parts -/

/-- A probe task drops no end of the raw channel. -/
theorem probe_ends [Float64 F] [DecidableEq ι] {ingest after : Ingest ι F}
    {label : IngestLabel ι} (hlabel : label.movesProbe = true)
    (taken : ingest.step label = some after) :
    after.rawEvents.sendersGone = ingest.rawEvents.sendersGone ∧
      after.rawEvents.receiverGone = ingest.rawEvents.receiverGone := by
  cases label with
  | generate probe event =>
      obtain ⟨task, _, rfl⟩ := Option.map_eq_some_iff.mp taken
      exact ⟨rfl, rfl⟩
  | send probe =>
      obtain ⟨event, answer, channel, _, hsend, rfl⟩ := Ingest.send_cases taken
      obtain ⟨hreceiver, hsenders⟩ := Channel.trySend_ends hsend
      exact ⟨hsenders, hreceiver⟩
  | account probe =>
      obtain ⟨books, _, rfl⟩ := Option.map_eq_some_iff.mp taken
      exact ⟨rfl, rfl⟩
  | leave probe =>
      obtain ⟨task, _, rfl⟩ := Option.map_eq_some_iff.mp taken
      exact ⟨rfl, rfl⟩
  | shutdown =>
      cases taken
      exact ⟨rfl, rfl⟩
  | _ => cases hlabel

/-- Storage drops only the receiver of the snapshot channel, and only when every sender is
gone. -/
theorem store_ends [Float64 F] {tapped after : Tapped F} {label : TappedLabel}
    (hlabel : label.movesStore = true) (taken : tapped.step label = some after)
    {channel : Channel dbSnapshotCapacity (StateSnapshot F)}
    (hchannel : after.dbTx = some channel) :
    ∃ before, tapped.dbTx = some before ∧ channel.sendersGone = before.sendersGone ∧
      (channel.receiverGone = true → before.receiverGone = true ∨ before.sendersGone = true) := by
  cases label with
  | insertEvent position answer =>
      simp only [Tapped.step, Tapped.insertEvent] at taken
      split at taken
      · cases taken
      · cases taken
        exact ⟨channel, hchannel, rfl, Or.inl⟩
  | takeSnapshot =>
      simp only [Tapped.step, Tapped.takeSnapshot] at taken
      split at taken
      · rename_i before _ hbefore
        split at taken
        · cases taken
        · split at taken
          · rename_i snapshot rest hrecv
            obtain ⟨_, hreceiver, hsenders⟩ := Channel.recv_item hrecv
            cases taken
            cases hchannel
            exact ⟨before, hbefore, hsenders, fun hgone => .inl (hreceiver ▸ hgone)⟩
          · rename_i hended
            cases taken
            cases hchannel
            exact ⟨before, hbefore, rfl, fun _ => .inr (Channel.recv_ended_iff.mp hended).2⟩
          · cases taken
      · cases taken
  | insertSnapshot answer =>
      simp only [Tapped.step, Tapped.insertSnapshot] at taken
      split at taken
      · cases taken
      · cases taken
        exact ⟨channel, hchannel, rfl, Or.inl⟩
  | purge retention now events snapshots =>
      cases taken
      exact ⟨channel, hchannel, rfl, Or.inl⟩
  | wipe events snapshots =>
      cases taken
      exact ⟨channel, hchannel, rfl, Or.inl⟩
  | _ => cases hlabel

/-- Storage leaves both loops alone. -/
theorem store_loops [Float64 F] {tapped after : Tapped F} {label : TappedLabel}
    (hlabel : label.movesStore = true) (taken : tapped.step label = some after) :
    after.consumer = tapped.consumer ∧ after.aggregator = tapped.aggregator ∧
      after.pc = tapped.pc ∧ after.sharedState = tapped.sharedState := by
  have hconsumer : Tapped.consumerInput label = none := by
    cases label with
    | receive => cases hlabel
    | forward => cases hlabel
    | _ => rfl
  have haggregator : Tapped.aggregatorInput label = none := by
    cases label with
    | aggregate => cases hlabel
    | tick => cases hlabel
    | publish => cases hlabel
    | offer => cases hlabel
    | tap => cases hlabel
    | _ => rfl
  obtain ⟨hsame, hloop⟩ := Tapped.storage_step hconsumer haggregator taken
  exact ⟨hsame, congrArg AggregatorLoop.aggregator hloop,
    congrArg AggregatorLoop.pc hloop, congrArg AggregatorLoop.sharedState hloop⟩

/-- What the engine, the dispatcher and the handlers did is seen behind the aggregator as
they did it. -/
theorem delivery_setOutput [Float64 F] [Libm F]
    {encode : OscBundle F → Option (List UInt8)} {tasks : Tasks ι F} {delivery : Delivery F}
    {label : DeliveryLabel F} (hlabel : label.movesOutput = true)
    (taken : tasks.delivery.step encode label = some delivery) :
    (tasks.setOutput delivery).delivery = delivery := by
  obtain ⟨haggregator, hticking, haggregating, hemissions, hstamp⟩ :=
    Delivery.output_frame hlabel taken
  obtain ⟨aggregator, ticking, aggregating, emissions, stamp, _, _, _, _, _, _, _⟩ := delivery
  subst haggregator hticking haggregating hemissions hstamp
  rfl

/-! ### Who is left alone -/

/-- Between two states the tasks before and behind the aggregator hold the same ends. -/
theorem Wired.of_output {tasks next : Tasks ι F} (wired : tasks.Wired)
    (hraw : next.rawEvents.sendersGone = tasks.rawEvents.sendersGone ∧
      next.rawEvents.receiverGone = tasks.rawEvents.receiverGone)
    (hagg : next.aggEvents = tasks.aggEvents) (htapped : next.tapped = tasks.tapped)
    (output : next.delivery.Wired) : next.Wired where
  rawSenders := by
    rw [hraw.1]
    exact wired.rawSenders
  rawReceiver := by
    rw [hraw.2, htapped]
    exact wired.rawReceiver
  aggSenders := by
    rw [hagg, htapped]
    exact wired.aggSenders
  aggReceiver := by
    rw [hagg, htapped]
    exact wired.aggReceiver
  consumer := by
    rw [htapped]
    exact wired.consumer
  dbSenders := by
    rw [htapped]
    exact wired.dbSenders
  dbReceiver := by
    rw [htapped]
    exact wired.dbReceiver
  output := output

/-- The aggregator and storage turned without leaving a loop: the snapshot channel lost its
receiver at most, and this only after its senders. -/
theorem Wired.of_turn {tasks next : Tasks ι F} (wired : tasks.Wired)
    (hraw : next.rawEvents = tasks.rawEvents) (hagg : next.aggEvents = tasks.aggEvents)
    (hconsumer : next.tapped.consumer = tasks.tapped.consumer)
    (hpc : next.tapped.pc.isStopped = tasks.tapped.pc.isStopped)
    (hdb : ∀ channel, next.tapped.dbTx = some channel →
      ∃ before, tasks.tapped.dbTx = some before ∧
        channel.sendersGone = before.sendersGone ∧
        (channel.receiverGone = true → before.receiverGone = true ∨ before.sendersGone = true))
    (output : next.delivery.Wired) : next.Wired where
  rawSenders := by
    rw [hraw]
    exact wired.rawSenders
  rawReceiver := by
    rw [hraw, hconsumer]
    exact wired.rawReceiver
  aggSenders := by
    rw [hagg, hconsumer]
    exact wired.aggSenders
  aggReceiver := by
    rw [hagg, hpc]
    exact wired.aggReceiver
  consumer := by
    rw [hconsumer, hpc]
    exact wired.consumer
  dbSenders channel hchannel := by
    obtain ⟨before, hbefore, hsenders, _⟩ := hdb channel hchannel
    rw [hsenders, hpc]
    exact wired.dbSenders before hbefore
  dbReceiver channel hchannel hgone := by
    obtain ⟨before, hbefore, _, hreceiver⟩ := hdb channel hchannel
    rw [hpc]
    rcases hreceiver hgone with hgone | hgone
    · exact wired.dbReceiver before hbefore hgone
    · exact (wired.dbSenders before hbefore).mp hgone
  output := output

/-- The aggregator leaves its loop because the engine has left its own. -/
theorem Wired.stopAggregator {tasks next : Tasks ι F} (wired : tasks.Wired)
    (hraw : next.rawEvents = tasks.rawEvents)
    (hagg : next.aggEvents = tasks.aggEvents.dropReceiver)
    (htapped : next.tapped = tasks.tapped.stopAggregator) (output : next.delivery.Wired) :
    next.Wired where
  rawSenders := by
    rw [hraw]
    exact wired.rawSenders
  rawReceiver := by
    rw [hraw, htapped]
    exact wired.rawReceiver
  aggSenders := by
    rw [hagg, htapped]
    exact wired.aggSenders
  aggReceiver := by
    rw [hagg, htapped]
    exact iff_of_true rfl rfl
  consumer := by
    rw [htapped]
    exact fun _ => rfl
  dbSenders channel hchannel := by
    rw [htapped] at hchannel ⊢
    obtain ⟨before, _, rfl⟩ := Option.map_eq_some_iff.mp hchannel
    exact iff_of_true rfl rfl
  dbReceiver channel _ _ := by
    rw [htapped]
    rfl
  output := output

theorem Wired.before {tasks next : Tasks ι F} (wired : tasks.Wired)
    (hsnapshots : next.snapshots = tasks.snapshots)
    (hparams : next.mappedParams = tasks.mappedParams) (hengine : next.engine = tasks.engine)
    (hdispatcher : next.dispatcher = tasks.dispatcher)
    (hpc : next.tapped.pc.isStopped = tasks.tapped.pc.isStopped) : next.delivery.Wired := by
  apply wired.output.of_sameEnds
  constructor <;> simp only [delivery, hsnapshots, hparams, hengine, hdispatcher, hpc]

variable [Float64 F] [Libm F] [DecidableEq ι]
  {encode : OscBundle F → Option (List UInt8)} {tasks next : Tasks ι F}
  {label : TasksLabel ι F}

/-! ### The consumer -/

/-- The consumer receives.  The end of the stream that the source provides for never comes:
the raw channel keeps a sender. -/
theorem Wired.receive (wired : tasks.Wired)
    (taken : tasks.step encode .receive = some next) : next.Wired := by
  cases step_moves taken with
  | received event rest hconsumer hrecv =>
      obtain ⟨_, hreceiver, hsenders⟩ := Channel.recv_item hrecv
      have hagg := wired.aggSenders
      have hopen := wired.rawReceiver
      rw [hconsumer] at hagg hopen
      exact {
        rawSenders := hsenders.trans wired.rawSenders
        rawReceiver := by
          rw [hreceiver, hopen]
          simp
        aggSenders := by
          rw [hagg]
          simp
        aggReceiver := wired.aggReceiver
        consumer := by simp
        dbSenders := wired.dbSenders
        dbReceiver := wired.dbReceiver
        output := wired.before rfl rfl rfl rfl rfl }
  | rawEnded hconsumer hrecv =>
      have hgone := (Channel.recv_ended_iff.mp hrecv).2
      rw [wired.rawSenders] at hgone
      cases hgone

/-- The consumer forwards, and leaves its loop when the aggregator is gone. -/
theorem Wired.forward (wired : tasks.Wired)
    (taken : tasks.step encode .forward = some next) : next.Wired := by
  cases step_moves taken with
  | forwarded event answer after hconsumer hsend hopen =>
      obtain ⟨hreceiver, hsenders⟩ := Channel.trySend_ends hsend
      have hagg := wired.aggSenders
      have hraw := wired.rawReceiver
      rw [hconsumer] at hagg hraw
      exact {
        rawSenders := wired.rawSenders
        rawReceiver := by
          rw [hraw]
          simp
        aggSenders := by
          rw [hsenders, hagg]
          simp
        aggReceiver := by
          rw [hreceiver]
          exact wired.aggReceiver
        consumer := by simp
        dbSenders := wired.dbSenders
        dbReceiver := wired.dbReceiver
        output := wired.before rfl rfl rfl rfl rfl }
  | aggregatorGone event after hconsumer hsend =>
      obtain ⟨hreceiver, _⟩ := Channel.trySend_ends hsend
      have hgone := (Channel.trySend_closed_iff hsend).mp rfl
      exact {
        rawSenders := wired.rawSenders
        rawReceiver := iff_of_true rfl rfl
        aggSenders := iff_of_true rfl rfl
        aggReceiver := by
          rw [Channel.dropSenders_receiverGone, hreceiver]
          exact wired.aggReceiver
        consumer := fun _ => wired.aggReceiver.mp hgone
        dbSenders := wired.dbSenders
        dbReceiver := wired.dbReceiver
        output := wired.before rfl rfl rfl rfl rfl }

/-! ### The aggregator -/

/-- The aggregator receives.  It never meets the end of its stream either: the consumer
drops its sender only when the aggregator is gone. -/
theorem Wired.aggregate (wired : tasks.Wired)
    (taken : tasks.step encode .aggregate = some next) : next.Wired := by
  cases step_moves taken with
  | pushed event rest hpc hrecv =>
      obtain ⟨_, hreceiver, hsenders⟩ := Channel.recv_item hrecv
      exact {
        rawSenders := wired.rawSenders
        rawReceiver := wired.rawReceiver
        aggSenders := by
          rw [hsenders]
          exact wired.aggSenders
        aggReceiver := by
          rw [hreceiver]
          exact wired.aggReceiver
        consumer := wired.consumer
        dbSenders := wired.dbSenders
        dbReceiver := wired.dbReceiver
        output := wired.before rfl rfl rfl rfl rfl }
  | aggEnded hpc hrecv =>
      have hgone := wired.aggSenders.mp (Channel.recv_ended_iff.mp hrecv).2
      have hstopped := wired.consumer hgone
      rw [hpc] at hstopped
      cases hstopped

theorem Wired.tick (wired : tasks.Wired) {nowUs : UInt64}
    (taken : tasks.step encode (.tick nowUs) = some next) : next.Wired := by
  cases step_moves taken with
  | ticked _ window snapshot hpc hcompute =>
      have hsame : AggregatorPc.isStopped (.publishing snapshot) =
          tasks.tapped.pc.isStopped := by rw [hpc]; rfl
      exact wired.of_turn rfl rfl rfl hsame
        (fun channel hchannel => ⟨channel, hchannel, rfl, Or.inl⟩)
        (wired.before rfl rfl rfl rfl hsame)

theorem Wired.publish (wired : tasks.Wired)
    (taken : tasks.step encode .publish = some next) : next.Wired := by
  cases step_moves taken with
  | published snapshot hpc =>
      have hsame : AggregatorPc.isStopped (.forwarding snapshot) =
          tasks.tapped.pc.isStopped := by rw [hpc]; rfl
      exact wired.of_turn rfl rfl rfl hsame
        (fun channel hchannel => ⟨channel, hchannel, rfl, Or.inl⟩)
        (wired.before rfl rfl rfl rfl hsame)

theorem Wired.tap (wired : tasks.Wired) (taken : tasks.step encode .tap = some next) :
    next.Wired := by
  cases step_moves taken with
  | tapped snapshot hpc =>
      have hsame : AggregatorPc.isStopped (.selecting : AggregatorPc F) =
          tasks.tapped.pc.isStopped := by rw [hpc]; rfl
      refine wired.of_turn rfl rfl rfl hsame ?_ (wired.before rfl rfl rfl rfl hsame)
      intro channel hchannel
      obtain ⟨before, hbefore, rfl⟩ := Option.map_eq_some_iff.mp hchannel
      obtain ⟨hreceiver, hsenders⟩ := Channel.trySend_ends
        (Prod.mk.eta (p := before.trySend snapshot)).symm
      exact ⟨before, hbefore, hsenders, fun hgone => .inl (hreceiver ▸ hgone)⟩

/-- The aggregator offers its snapshot, and leaves its loop when the engine is gone. -/
theorem Wired.offer (wired : tasks.Wired) (taken : tasks.step encode .offer = some next) :
    next.Wired := by
  cases step_moves taken with
  | offered snapshot answer after hpc hsend hopen =>
      obtain ⟨hreceiver, hsenders⟩ := Channel.trySend_ends hsend
      refine wired.of_turn rfl rfl rfl (by rw [hpc]; rfl)
        (fun channel hchannel => ⟨channel, hchannel, rfl, Or.inl⟩) ?_
      refine wired.output.of_sameEnds ⟨hsenders, hreceiver, rfl, rfl, ?_, Iff.rfl, Iff.rfl⟩
      simp [delivery, hpc, AggregatorPc.isStopped]
  | engineGone snapshot after hpc hsend =>
      obtain ⟨hreceiver, _⟩ := Channel.trySend_ends hsend
      have hgone := (Channel.trySend_closed_iff hsend).mp rfl
      have hengine := wired.output.snapshotsReceiver.mp hgone
      refine wired.stopAggregator rfl rfl rfl ?_
      exact {
        snapshotsSenders := iff_of_true rfl rfl
        snapshotsReceiver := iff_of_true (hreceiver.trans hgone) hengine
        paramsSenders := wired.output.paramsSenders
        paramsReceiver := wired.output.paramsReceiver
        aggregator := fun _ => hengine
        dispatcher := wired.output.dispatcher }

/-! ### Every step -/

/-- Every step keeps the wiring. -/
theorem Wired.step (wired : tasks.Wired) (taken : tasks.step encode label = some next) :
    next.Wired := by
  cases label with
  | probe label =>
      cases step_moves taken with
      | probe _ ingest hlabel hstep =>
          exact wired.of_output (probe_ends hlabel hstep) rfl rfl
            (wired.before rfl rfl rfl rfl rfl)
  | receive => exact wired.receive taken
  | forward => exact wired.forward taken
  | aggregate => exact wired.aggregate taken
  | tick nowUs => exact wired.tick taken
  | publish => exact wired.publish taken
  | offer => exact wired.offer taken
  | tap => exact wired.tap taken
  | store label =>
      cases step_moves taken with
      | stored _ tapped hlabel hstep =>
          obtain ⟨hconsumer, _, hpc, _⟩ := store_loops hlabel hstep
          have hsame := congrArg AggregatorPc.isStopped hpc
          exact wired.of_turn rfl rfl hconsumer hsame
            (fun channel hchannel => store_ends hlabel hstep hchannel)
            (wired.before rfl rfl rfl rfl hsame)
  | output label =>
      cases step_moves taken with
      | output _ delivery hlabel hstep =>
          refine wired.of_output ⟨rfl, rfl⟩ rfl rfl ?_
          rw [delivery_setOutput hlabel hstep]
          exact wired.output.output hlabel hstep

/-- Every reachable state is wired. -/
theorem wired_of_run {kinds : ι → ProbeKind} {config : Config F} {db : Database F}
    {trace : List (Tasks ι F × TasksLabel ι F)} {final : Tasks ι F}
    (run : Run (step encode) (started kinds config db) trace final) : final.Wired :=
  run.state_invariant Wired (wired_started kinds config db) Wired.step

end Ends

end Tasks

end DaemonChoir.Conductor
