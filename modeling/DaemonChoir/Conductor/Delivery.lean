import DaemonChoir.Conductor.Aggregator
import DaemonChoir.Conductor.ControlApi
import DaemonChoir.Conductor.Osc
import DaemonChoir.Foundation.Pipeline
set_option autoImplicit false

/-!
# Conductor: from the tick to the socket

The aggregator's ticks, the mapping engine and the dispatcher with the two queues
between them, and the handlers that rewrite the shared cells.  A step is one operation
on shared state.  Every queued item carries the number of the emission it comes from;
no step looks at the numbers.

What is not a step here is an input of a step: the clock of a tick and that of a bundle,
whether the network takes a packet, and the writes of the handlers into the shared cells.
The encoder is a parameter, a function that may fail.  A panic of the mapping engine is a
step too: it drops the engine's channel ends and leaves the loop, and everything else goes
on.

The numbers are bookkeeping and make runs comparable with their histories.  A number is
given at the send of the aggregator, whether the channel takes the snapshot or not, and
goes with the parameter list and the packet made from it.  `OscOutput` reads the image of
the snapshots off them, `FanOut` and `Dispatch` what one packet is sent to, `Destinations`
and `OutputRange` what the handlers' writes allow, and `DispatchLatency` and `Timetag`
which clock readings meet.  All of them go through `step_moves`, which lists everything a
step can do.
-/

namespace DaemonChoir.Conductor

open DaemonChoir.Common DaemonChoir.Foundation

/-- The capacity of `snapshots` and of `mapped_params`. -/
abbrev frameCapacity : Nat := 256

/-- Where `MappingEngine::run` stands. -/
inductive MappingEngine (F : Type) where
  /-- Before `rx.recv()`. -/
  | receiving
  /-- Before `rules.read()`. -/
  | holding (snapshot : Tagged (StateSnapshot F))
  /-- Before `tx.try_send(mapped_params)`. -/
  | sending (params : Tagged (List (MappedParam F)))
  /-- The loop was left, or the task has panicked. -/
  | stopped

/-- Where `OscDispatcher::run` stands. -/
inductive OscDispatcher (F : Type) where
  /-- Before `rx.recv()`. -/
  | receiving
  /-- Before `backends.read()`. -/
  | received (params : Tagged (List (MappedParam F)))
  /-- Before the clock is read for the timetag. -/
  | stamping (params : Tagged (List (MappedParam F))) (backends : List OscBackendConfig)
  /-- At the head of the loop over the backends, or after it. -/
  | offering (origin : ℕ) (packet : List UInt8) (backends : List OscBackendConfig)
  /-- Before `socket.send_to`. -/
  | sending (origin : ℕ) (packet : List UInt8) (backend : OscBackendConfig)
      (rest : List OscBackendConfig)
  /-- Before `osc_dispatch_success_total.fetch_add`. -/
  | crediting (origin : ℕ) (packet : List UInt8) (rest : List OscBackendConfig)
  /-- Before `snapshot_timestamp_us.load`. -/
  | loading (origin : ℕ) (nowUs : UInt64)
  /-- Inside `latency_histogram.observe`. -/
  | recording (pending : List HistogramAdd)
  /-- The loop was left. -/
  | stopped

/-- The tasks behind the aggregator's window and what they share. -/
structure Delivery (F : Type) where
  aggregator : Aggregator F
  /-- The snapshot of a tick before its `tx.try_send`. -/
  ticking : Option (StateSnapshot F)
  /-- The loop of the aggregator has not been left. -/
  aggregating : Bool
  /-- How many snapshots were offered to the mapping engine. -/
  emissions : ℕ
  snapshotTimestampUs : UInt64
  snapshots : Channel frameCapacity (Tagged (StateSnapshot F))
  engine : MappingEngine F
  mappedParams : Channel frameCapacity (Tagged (List (MappedParam F)))
  dispatcher : OscDispatcher F
  cells : ConfigCells F
  oscMetrics : OscMetrics
  latencyHistogram : PrometheusHistogram

/-- Which task moves, with what comes from outside. -/
inductive DeliveryLabel (F : Type) where
  /-- The aggregator receives an event. -/
  | push (event : RawEvent)
  /-- A tick up to its send: the clock and the loss counter. -/
  | tick (nowUs lostEventsDelta : UInt64)
  /-- `tx.try_send(snapshot)` -/
  | emit
  /-- `rx.recv()` of the engine. -/
  | receiveSnapshot
  /-- `rules.read()` and the loop over the rules. -/
  | readRules
  /-- `tx.try_send(mapped_params)` -/
  | sendParams
  /-- `rx.recv()` of the dispatcher. -/
  | receiveParams
  /-- `backends.read()` -/
  | readBackends
  /-- The clock for the timetag, and the encoding. -/
  | stamp (now : SystemTime)
  /-- `osc_dispatch_total.fetch_add` -/
  | offer
  /-- `socket.send_to`, with its outcome. -/
  | sendTo (ok : Bool)
  /-- `osc_dispatch_success_total.fetch_add` -/
  | credit
  /-- The clock after the sends. -/
  | readClock (nowUs : UInt64)
  /-- `snapshot_timestamp_us.load` -/
  | load
  /-- One operation of `observe`. -/
  | record
  /-- A handler writes a cell. -/
  | write (write : CellWrite F)

/-- The parameter list in the hands of the dispatcher, until its bundle is made. -/
def OscDispatcher.taken {F : Type} :
    OscDispatcher F → Option (Tagged (List (MappedParam F)))
  | .received params => some params
  | .stamping params _ => some params
  | _ => none

namespace Delivery

section Steps

variable {F : Type}

/-- The aggregator receives an event between two ticks. -/
def push (delivery : Delivery F) (event : RawEvent) : Option (Delivery F) :=
  match delivery.aggregating, delivery.ticking with
  | true, none => some { delivery with aggregator := delivery.aggregator.push event }
  | _, _ => none

/-- `tx.try_send(snapshot)`: a full queue drops the snapshot, a closed one ends the
aggregator. -/
def emit (delivery : Delivery F) : Option (Delivery F) :=
  match delivery.ticking with
  | none => none
  | some snapshot =>
      match delivery.snapshots.trySend ⟨delivery.emissions, snapshot⟩ with
      | (.closed, _) =>
          some { delivery with
            ticking := none, aggregating := false, emissions := delivery.emissions + 1
            snapshots := delivery.snapshots.dropSenders }
      | (_, after) =>
          some { delivery with
            ticking := none, emissions := delivery.emissions + 1, snapshots := after }

/-- The engine ends, by leaving its loop or by a panic. -/
def stopEngine (delivery : Delivery F) : Delivery F :=
  { delivery with
    engine := .stopped
    snapshots := delivery.snapshots.dropReceiver
    mappedParams := delivery.mappedParams.dropSenders }

/-- The engine receives. -/
def receiveSnapshot (delivery : Delivery F) : Option (Delivery F) :=
  match delivery.engine with
  | .receiving =>
      match delivery.snapshots.recv with
      | .item snapshot rest =>
          some { delivery with snapshots := rest, engine := .holding snapshot }
      | .ended => some delivery.stopEngine
      | .pending => none
  | _ => none

/-- The engine sends. -/
def sendParams (delivery : Delivery F) : Option (Delivery F) :=
  match delivery.engine with
  | .sending params =>
      match delivery.mappedParams.trySend params with
      | (.closed, _) => some delivery.stopEngine
      | (_, after) => some { delivery with engine := .receiving, mappedParams := after }
  | _ => none

/-- The dispatcher receives; an empty list is skipped. -/
def receiveParams (delivery : Delivery F) : Option (Delivery F) :=
  match delivery.dispatcher with
  | .receiving =>
      match delivery.mappedParams.recv with
      | .item params rest =>
          if params.item.isEmpty then some { delivery with mappedParams := rest }
          else some { delivery with mappedParams := rest, dispatcher := .received params }
      | .ended =>
          some { delivery with
            mappedParams := delivery.mappedParams.dropReceiver, dispatcher := .stopped }
      | .pending => none
  | _ => none

/-- The dispatcher reads the backends. -/
def readBackends (delivery : Delivery F) : Option (Delivery F) :=
  match delivery.dispatcher with
  | .received params =>
      match delivery.cells.oscBackends.read with
      | none => some { delivery with dispatcher := .receiving }
      | some activeBackends =>
          some { delivery with dispatcher := .stamping params activeBackends }
  | _ => none

/-- The dispatcher goes on to the next backend. -/
def offer (delivery : Delivery F) : Option (Delivery F) :=
  match delivery.dispatcher with
  | .offering origin packet (backend :: rest) =>
      some { delivery with
        dispatcher := .sending origin packet backend rest
        oscMetrics := { delivery.oscMetrics with
          oscDispatchTotal := delivery.oscMetrics.oscDispatchTotal + 1 } }
  | _ => none

/-- The dispatcher sends one packet. -/
def sendTo (delivery : Delivery F) (ok : Bool) : Option (Delivery F) :=
  match delivery.dispatcher with
  | .sending origin packet _ rest =>
      if ok then some { delivery with dispatcher := .crediting origin packet rest }
      else some { delivery with dispatcher := .offering origin packet rest }
  | _ => none

/-- The dispatcher counts a packet that was sent. -/
def credit (delivery : Delivery F) : Option (Delivery F) :=
  match delivery.dispatcher with
  | .crediting origin packet rest =>
      some { delivery with
        dispatcher := .offering origin packet rest
        oscMetrics := { delivery.oscMetrics with
          oscDispatchSuccessTotal := delivery.oscMetrics.oscDispatchSuccessTotal + 1 } }
  | _ => none

/-- The dispatcher reads the clock after the last backend. -/
def readClock (delivery : Delivery F) (nowUs : UInt64) : Option (Delivery F) :=
  match delivery.dispatcher with
  | .offering origin _ [] => some { delivery with dispatcher := .loading origin nowUs }
  | _ => none

/-- The dispatcher performs one operation of `observe`. -/
def record (delivery : Delivery F) : Option (Delivery F) :=
  match delivery.dispatcher with
  | .recording (operation :: rest) =>
      some { delivery with
        latencyHistogram := delivery.latencyHistogram.add operation
        dispatcher := if rest.isEmpty then .receiving else .recording rest }
  | _ => none

variable [Float64 F]

/-- The tasks as `main` starts them. -/
def started (config : Config F) : Delivery F where
  aggregator := .new config.daemon.windowMs
  ticking := none
  aggregating := true
  emissions := 0
  snapshotTimestampUs := 0
  snapshots := .empty frameCapacity _
  engine := .receiving
  mappedParams := .empty frameCapacity _
  dispatcher := .receiving
  cells := .new config
  oscMetrics := ⟨0, 0⟩
  latencyHistogram := .default

/-- A tick up to its send: the clock is stored, the snapshot computed. -/
def tick (delivery : Delivery F) (nowUs lostEventsDelta : UInt64) : Option (Delivery F) :=
  match delivery.aggregating, delivery.ticking with
  | true, none =>
      match delivery.aggregator.tick nowUs lostEventsDelta with
      | none => none
      | some (next, snapshot) =>
          some { delivery with
            aggregator := next
            ticking := some snapshot
            snapshotTimestampUs := nowUs }
  | _, _ => none

/-- The dispatcher loads the time of the latest tick and decides what to observe. -/
def load (delivery : Delivery F) : Option (Delivery F) :=
  match delivery.dispatcher with
  | .loading _ nowUs =>
      match (diffMs nowUs delivery.snapshotTimestampUs : Option F) with
      | none => some { delivery with dispatcher := .receiving }
      | some ms => some { delivery with dispatcher := .recording (observe ms) }
  | _ => none

/-- The dispatcher builds and encodes the bundle. -/
def stamp (encode : OscBundle F → Option (List UInt8)) (delivery : Delivery F)
    (now : SystemTime) : Option (Delivery F) :=
  match delivery.dispatcher with
  | .stamping params activeBackends =>
      match encode (oscBundle params.item now) with
      | none => some { delivery with dispatcher := .receiving }
      | some packet =>
          some { delivery with dispatcher := .offering params.origin packet activeBackends }
  | _ => none

variable [Libm F]

/-- The engine maps the snapshot by the rules in force. -/
def readRules (delivery : Delivery F) : Option (Delivery F) :=
  match delivery.engine with
  | .holding snapshot =>
      match mappingFrame delivery.cells.mappingRules snapshot.item with
      | .skipped => some { delivery with engine := .receiving }
      | .panicked => some delivery.stopEngine
      | .mapped params => some { delivery with engine := .sending ⟨snapshot.origin, params⟩ }
  | _ => none

/-- One step of one task.  `encode` is `rosc::encoder::encode`. -/
def step (encode : OscBundle F → Option (List UInt8)) (delivery : Delivery F) :
    DeliveryLabel F → Option (Delivery F)
  | .push event => delivery.push event
  | .tick nowUs lostEventsDelta => delivery.tick nowUs lostEventsDelta
  | .emit => delivery.emit
  | .receiveSnapshot => delivery.receiveSnapshot
  | .readRules => delivery.readRules
  | .sendParams => delivery.sendParams
  | .receiveParams => delivery.receiveParams
  | .readBackends => delivery.readBackends
  | .stamp now => delivery.stamp encode now
  | .offer => delivery.offer
  | .sendTo ok => delivery.sendTo ok
  | .credit => delivery.credit
  | .readClock nowUs => delivery.readClock nowUs
  | .load => delivery.load
  | .record => delivery.record
  | .write write => some { delivery with cells := delivery.cells.perform write }

/-! ## What a step can do -/

/-- Everything a step can do: one case for each branch of the source, with what led into
it. -/
inductive Moves (encode : OscBundle F → Option (List UInt8)) (delivery : Delivery F) :
    DeliveryLabel F → Delivery F → Prop
  | pushed (event : RawEvent) (hrunning : delivery.aggregating = true)
      (hticking : delivery.ticking = none) :
      Moves encode delivery (.push event)
        { delivery with aggregator := delivery.aggregator.push event }
  | ticked (nowUs lostEventsDelta : UInt64) (next : Aggregator F)
      (snapshot : StateSnapshot F) (hrunning : delivery.aggregating = true)
      (hticking : delivery.ticking = none)
      (htick : delivery.aggregator.tick nowUs lostEventsDelta = some (next, snapshot)) :
      Moves encode delivery (.tick nowUs lostEventsDelta)
        { delivery with
          aggregator := next
          ticking := some snapshot
          snapshotTimestampUs := nowUs }
  | emitOk (snapshot : StateSnapshot F)
      (after : Channel frameCapacity (Tagged (StateSnapshot F)))
      (hticking : delivery.ticking = some snapshot)
      (hgone : delivery.snapshots.receiverGone = false) (hroom : ¬ delivery.snapshots.IsFull)
      (hqueue : after.queue = delivery.snapshots.queue ++ [⟨delivery.emissions, snapshot⟩]) :
      Moves encode delivery .emit
        { delivery with
          ticking := none, emissions := delivery.emissions + 1, snapshots := after }
  | emitFull (snapshot : StateSnapshot F) (hticking : delivery.ticking = some snapshot)
      (hgone : delivery.snapshots.receiverGone = false) (hfull : delivery.snapshots.IsFull) :
      Moves encode delivery .emit
        { delivery with ticking := none, emissions := delivery.emissions + 1 }
  | emitClosed (snapshot : StateSnapshot F) (hticking : delivery.ticking = some snapshot)
      (hgone : delivery.snapshots.receiverGone = true) :
      Moves encode delivery .emit
        { delivery with
          ticking := none, aggregating := false, emissions := delivery.emissions + 1
          snapshots := delivery.snapshots.dropSenders }
  | held (snapshot : Tagged (StateSnapshot F))
      (rest : Channel frameCapacity (Tagged (StateSnapshot F)))
      (hengine : delivery.engine = .receiving)
      (hqueue : delivery.snapshots.queue = snapshot :: rest.queue)
      (hgone : rest.receiverGone = delivery.snapshots.receiverGone) :
      Moves encode delivery .receiveSnapshot
        { delivery with snapshots := rest, engine := .holding snapshot }
  | snapshotsEnded (hengine : delivery.engine = .receiving)
      (hended : delivery.snapshots.recv = .ended) :
      Moves encode delivery .receiveSnapshot delivery.stopEngine
  | rulesPoisoned (snapshot : Tagged (StateSnapshot F))
      (hengine : delivery.engine = .holding snapshot)
      (hpoisoned : delivery.cells.mappingRules.poisoned = true) :
      Moves encode delivery .readRules { delivery with engine := .receiving }
  | mapPanicked (snapshot : Tagged (StateSnapshot F))
      (hengine : delivery.engine = .holding snapshot)
      (hpanic : mapRules snapshot.item.metrics delivery.cells.mappingRules.value = none) :
      Moves encode delivery .readRules delivery.stopEngine
  | mapped (snapshot : Tagged (StateSnapshot F)) (params : List (MappedParam F))
      (hengine : delivery.engine = .holding snapshot)
      (hmapped : mapRules snapshot.item.metrics delivery.cells.mappingRules.value =
        some params) :
      Moves encode delivery .readRules
        { delivery with engine := .sending ⟨snapshot.origin, params⟩ }
  | sendOk (params : Tagged (List (MappedParam F)))
      (after : Channel frameCapacity (Tagged (List (MappedParam F))))
      (hengine : delivery.engine = .sending params)
      (hgone : delivery.mappedParams.receiverGone = false)
      (hroom : ¬ delivery.mappedParams.IsFull)
      (hqueue : after.queue = delivery.mappedParams.queue ++ [params]) :
      Moves encode delivery .sendParams
        { delivery with engine := .receiving, mappedParams := after }
  | sendFull (params : Tagged (List (MappedParam F)))
      (hengine : delivery.engine = .sending params)
      (hgone : delivery.mappedParams.receiverGone = false)
      (hfull : delivery.mappedParams.IsFull) :
      Moves encode delivery .sendParams { delivery with engine := .receiving }
  | sendClosed (params : Tagged (List (MappedParam F)))
      (hengine : delivery.engine = .sending params)
      (hgone : delivery.mappedParams.receiverGone = true) :
      Moves encode delivery .sendParams delivery.stopEngine
  | receiveEmpty (params : Tagged (List (MappedParam F)))
      (rest : Channel frameCapacity (Tagged (List (MappedParam F))))
      (hdispatcher : delivery.dispatcher = .receiving)
      (hqueue : delivery.mappedParams.queue = params :: rest.queue)
      (hgone : rest.receiverGone = delivery.mappedParams.receiverGone)
      (hempty : params.item.isEmpty = true) :
      Moves encode delivery .receiveParams { delivery with mappedParams := rest }
  | receiveFilled (params : Tagged (List (MappedParam F)))
      (rest : Channel frameCapacity (Tagged (List (MappedParam F))))
      (hdispatcher : delivery.dispatcher = .receiving)
      (hqueue : delivery.mappedParams.queue = params :: rest.queue)
      (hgone : rest.receiverGone = delivery.mappedParams.receiverGone)
      (hfilled : params.item.isEmpty = false) :
      Moves encode delivery .receiveParams
        { delivery with mappedParams := rest, dispatcher := .received params }
  | paramsEnded (hdispatcher : delivery.dispatcher = .receiving)
      (hended : delivery.mappedParams.recv = .ended) :
      Moves encode delivery .receiveParams
        { delivery with
          mappedParams := delivery.mappedParams.dropReceiver, dispatcher := .stopped }
  | backendsPoisoned (params : Tagged (List (MappedParam F)))
      (hdispatcher : delivery.dispatcher = .received params)
      (hpoisoned : delivery.cells.oscBackends.poisoned = true) :
      Moves encode delivery .readBackends { delivery with dispatcher := .receiving }
  | stamping (params : Tagged (List (MappedParam F)))
      (hdispatcher : delivery.dispatcher = .received params) :
      Moves encode delivery .readBackends
        { delivery with dispatcher := .stamping params delivery.cells.oscBackends.value }
  | encodeFailed (now : SystemTime) (params : Tagged (List (MappedParam F)))
      (backends : List OscBackendConfig)
      (hdispatcher : delivery.dispatcher = .stamping params backends)
      (hencode : encode (oscBundle params.item now) = none) :
      Moves encode delivery (.stamp now) { delivery with dispatcher := .receiving }
  | stamped (now : SystemTime) (params : Tagged (List (MappedParam F)))
      (backends : List OscBackendConfig) (packet : List UInt8)
      (hdispatcher : delivery.dispatcher = .stamping params backends)
      (hencode : encode (oscBundle params.item now) = some packet) :
      Moves encode delivery (.stamp now)
        { delivery with dispatcher := .offering params.origin packet backends }
  | offered (origin : ℕ) (packet : List UInt8) (backend : OscBackendConfig)
      (rest : List OscBackendConfig)
      (hdispatcher : delivery.dispatcher = .offering origin packet (backend :: rest)) :
      Moves encode delivery .offer
        { delivery with
          dispatcher := .sending origin packet backend rest
          oscMetrics := { delivery.oscMetrics with
            oscDispatchTotal := delivery.oscMetrics.oscDispatchTotal + 1 } }
  | sendToOk (origin : ℕ) (packet : List UInt8) (backend : OscBackendConfig)
      (rest : List OscBackendConfig)
      (hdispatcher : delivery.dispatcher = .sending origin packet backend rest) :
      Moves encode delivery (.sendTo true)
        { delivery with dispatcher := .crediting origin packet rest }
  | sendToErr (origin : ℕ) (packet : List UInt8) (backend : OscBackendConfig)
      (rest : List OscBackendConfig)
      (hdispatcher : delivery.dispatcher = .sending origin packet backend rest) :
      Moves encode delivery (.sendTo false)
        { delivery with dispatcher := .offering origin packet rest }
  | credited (origin : ℕ) (packet : List UInt8) (rest : List OscBackendConfig)
      (hdispatcher : delivery.dispatcher = .crediting origin packet rest) :
      Moves encode delivery .credit
        { delivery with
          dispatcher := .offering origin packet rest
          oscMetrics := { delivery.oscMetrics with
            oscDispatchSuccessTotal := delivery.oscMetrics.oscDispatchSuccessTotal + 1 } }
  | clockRead (nowUs : UInt64) (origin : ℕ) (packet : List UInt8)
      (hdispatcher : delivery.dispatcher = .offering origin packet []) :
      Moves encode delivery (.readClock nowUs)
        { delivery with dispatcher := .loading origin nowUs }
  | loadNone (origin : ℕ) (nowUs : UInt64)
      (hdispatcher : delivery.dispatcher = .loading origin nowUs)
      (hdiff : (diffMs nowUs delivery.snapshotTimestampUs : Option F) = none) :
      Moves encode delivery .load { delivery with dispatcher := .receiving }
  | loadSome (origin : ℕ) (nowUs : UInt64) (ms : F)
      (hdispatcher : delivery.dispatcher = .loading origin nowUs)
      (hdiff : diffMs nowUs delivery.snapshotTimestampUs = some ms) :
      Moves encode delivery .load { delivery with dispatcher := .recording (observe ms) }
  | recorded (operation : HistogramAdd) (rest : List HistogramAdd)
      (hdispatcher : delivery.dispatcher = .recording (operation :: rest)) :
      Moves encode delivery .record
        { delivery with
          latencyHistogram := delivery.latencyHistogram.add operation
          dispatcher := if rest.isEmpty then .receiving else .recording rest }
  | written (write : CellWrite F) :
      Moves encode delivery (.write write)
        { delivery with cells := delivery.cells.perform write }

variable {encode : OscBundle F → Option (List UInt8)} {delivery next : Delivery F}
  {label : DeliveryLabel F}

theorem emit_moves (taken : delivery.emit = some next) :
    Moves encode delivery .emit next := by
  unfold emit at taken
  split at taken
  · cases taken
  · rename_i snapshot hticking
    rcases hsend : delivery.snapshots.trySend ⟨delivery.emissions, snapshot⟩ with
      ⟨answer, after⟩
    rw [hsend] at taken
    rcases Channel.trySend_cases hsend with
      ⟨rfl, hgone, hroom, hqueue, _⟩ | ⟨rfl, hgone, hfull, rfl⟩ | ⟨rfl, hgone, _⟩
    · cases taken
      exact .emitOk snapshot after hticking hgone (Channel.not_isFull_of_lt hroom) hqueue
    · cases taken
      exact .emitFull snapshot hticking hgone hfull
    · cases taken
      exact .emitClosed snapshot hticking hgone

theorem receiveSnapshot_moves (taken : delivery.receiveSnapshot = some next) :
    Moves encode delivery .receiveSnapshot next := by
  unfold receiveSnapshot at taken
  split at taken
  · rename_i hengine
    split at taken
    · rename_i snapshot rest hrecv
      obtain ⟨hqueue, hgone, _⟩ := Channel.recv_item hrecv
      cases taken
      exact .held snapshot rest hengine hqueue hgone
    · rename_i hended
      cases taken
      exact .snapshotsEnded hengine hended
    · cases taken
  · cases taken

theorem readRules_moves (taken : delivery.readRules = some next) :
    Moves encode delivery .readRules next := by
  unfold readRules at taken
  split at taken
  · rename_i snapshot hengine
    rcases mappingFrame_cases delivery.cells.mappingRules snapshot.item with
      ⟨hpoisoned, hframe⟩ | ⟨_, hpanic, hframe⟩ | ⟨params, _, hmapped, hframe⟩
    · rw [hframe] at taken
      cases taken
      exact .rulesPoisoned snapshot hengine hpoisoned
    · rw [hframe] at taken
      cases taken
      exact .mapPanicked snapshot hengine hpanic
    · rw [hframe] at taken
      cases taken
      exact .mapped snapshot params hengine hmapped
  · cases taken

theorem sendParams_moves (taken : delivery.sendParams = some next) :
    Moves encode delivery .sendParams next := by
  unfold sendParams at taken
  split at taken
  · rename_i params hengine
    rcases hsend : delivery.mappedParams.trySend params with ⟨answer, after⟩
    rw [hsend] at taken
    rcases Channel.trySend_cases hsend with
      ⟨rfl, hgone, hroom, hqueue, _⟩ | ⟨rfl, hgone, hfull, rfl⟩ | ⟨rfl, hgone, _⟩
    · cases taken
      exact .sendOk params after hengine hgone (Channel.not_isFull_of_lt hroom) hqueue
    · cases taken
      exact .sendFull params hengine hgone hfull
    · cases taken
      exact .sendClosed params hengine hgone
  · cases taken

theorem receiveParams_moves (taken : delivery.receiveParams = some next) :
    Moves encode delivery .receiveParams next := by
  unfold receiveParams at taken
  split at taken
  · rename_i hdispatcher
    split at taken
    · rename_i params rest hrecv
      obtain ⟨hqueue, hgone, _⟩ := Channel.recv_item hrecv
      split at taken
      · rename_i hempty
        cases taken
        exact .receiveEmpty params rest hdispatcher hqueue hgone hempty
      · rename_i hfilled
        cases taken
        exact .receiveFilled params rest hdispatcher hqueue hgone (Bool.eq_false_iff.mpr hfilled)
    · rename_i hended
      cases taken
      exact .paramsEnded hdispatcher hended
    · cases taken
  · cases taken

theorem readBackends_moves (taken : delivery.readBackends = some next) :
    Moves encode delivery .readBackends next := by
  unfold readBackends at taken
  split at taken
  · rename_i params hdispatcher
    cases hpoisoned : delivery.cells.oscBackends.poisoned with
    | true =>
        rw [RwLock.read, hpoisoned] at taken
        cases taken
        exact .backendsPoisoned params hdispatcher hpoisoned
    | false =>
        rw [RwLock.read_eq_some hpoisoned] at taken
        cases taken
        exact .stamping params hdispatcher
  · cases taken

theorem stamp_moves {now : SystemTime} (taken : delivery.stamp encode now = some next) :
    Moves encode delivery (.stamp now) next := by
  unfold stamp at taken
  split at taken
  · rename_i params backends hdispatcher
    split at taken
    · rename_i hencode
      cases taken
      exact .encodeFailed now params backends hdispatcher hencode
    · rename_i packet hencode
      cases taken
      exact .stamped now params backends packet hdispatcher hencode
  · cases taken

theorem load_moves (taken : delivery.load = some next) : Moves encode delivery .load next := by
  unfold load at taken
  split at taken
  · rename_i origin nowUs hdispatcher
    split at taken
    · rename_i hdiff
      cases taken
      exact .loadNone origin nowUs hdispatcher hdiff
    · rename_i ms hdiff
      cases taken
      exact .loadSome origin nowUs ms hdispatcher hdiff
  · cases taken

/-- A step does one of these things. -/
theorem step_moves (taken : delivery.step encode label = some next) :
    Moves encode delivery label next := by
  cases label with
  | emit => exact emit_moves taken
  | receiveSnapshot => exact receiveSnapshot_moves taken
  | readRules => exact readRules_moves taken
  | sendParams => exact sendParams_moves taken
  | receiveParams => exact receiveParams_moves taken
  | readBackends => exact readBackends_moves taken
  | stamp now => exact stamp_moves taken
  | load => exact load_moves taken
  | push event =>
      simp only [step, push] at taken
      split at taken
      · rename_i hrunning hticking
        cases taken
        exact .pushed event hrunning hticking
      · cases taken
  | tick nowUs lostEventsDelta =>
      simp only [step, tick] at taken
      split at taken
      · rename_i hrunning hticking
        split at taken
        · cases taken
        · rename_i after snapshot htick
          cases taken
          exact .ticked nowUs lostEventsDelta after snapshot hrunning hticking htick
      · cases taken
  | offer =>
      simp only [step, offer] at taken
      split at taken
      · rename_i origin packet backend rest hdispatcher
        cases taken
        exact .offered origin packet backend rest hdispatcher
      · cases taken
  | sendTo ok =>
      simp only [step, sendTo] at taken
      split at taken
      · rename_i origin packet backend rest hdispatcher
        cases ok with
        | true =>
            cases taken
            exact .sendToOk origin packet backend rest hdispatcher
        | false =>
            cases taken
            exact .sendToErr origin packet backend rest hdispatcher
      · cases taken
  | credit =>
      simp only [step, credit] at taken
      split at taken
      · rename_i origin packet rest hdispatcher
        cases taken
        exact .credited origin packet rest hdispatcher
      · cases taken
  | readClock nowUs =>
      simp only [step, readClock] at taken
      split at taken
      · rename_i origin packet hdispatcher
        cases taken
        exact .clockRead nowUs origin packet hdispatcher
      · cases taken
  | record =>
      simp only [step, record] at taken
      split at taken
      · rename_i operation rest hdispatcher
        cases taken
        exact .recorded operation rest hdispatcher
      · cases taken
  | write write =>
      cases taken
      exact .written write

end Steps

end Delivery

end DaemonChoir.Conductor
