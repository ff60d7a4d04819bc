import DaemonChoir.Conductor.Cascade
set_option autoImplicit false

/-!
# Conductor: the pipeline settles

No task ever waits for another one to make room, so whatever was accepted is worked off.
Every item under way is priced by the steps it can still cause; a step of the pipeline
itself lowers the total, and where none is possible every queue in use is empty.

The price of an item is what it costs when nothing is dropped, so a refusal is paid for
too.  It depends on the number of backends in force, and the steps that lower the total do
not change that number; an update from outside may.  The two halves of the pipeline are
priced separately, before the aggregator and behind it, and the snapshot that the
aggregator offers takes its price from the one into the other.

A state is quiet when every task waits for something that is not there, or has left its
loop.  That this is the same as being stuck, with no internal step possible, needs the
invariant of `Wiring`: otherwise a task might wait at a channel whose other end is gone.
The bound and the existence of a last state come from `Foundation.Run`.
-/

namespace DaemonChoir.Conductor

open DaemonChoir.Common DaemonChoir.Foundation Finset

/-! ## Steps of the pipeline itself -/

/-- The probe goes on with an event it has. -/
def IngestLabel.internal {ι : Type} : IngestLabel ι → Bool
  | .send _ | .account _ => true
  | _ => false

/-- Storage goes on with what it was given. -/
def TappedLabel.internal : TappedLabel → Bool
  | .insertEvent _ _ | .takeSnapshot | .insertSnapshot _ => true
  | _ => false

/-- The engine or the dispatcher goes on. -/
def DeliveryLabel.internal {F : Type} : DeliveryLabel F → Bool
  | .push _ | .tick _ _ | .emit | .write _ => false
  | _ => true

/-- The step needs neither an event nor a tick nor a request from outside. -/
def TasksLabel.internal {ι F : Type} : TasksLabel ι F → Bool
  | .probe label => label.internal
  | .store label => label.internal
  | .output label => label.internal
  | .tick _ => false
  | _ => true

/-! ## The price of what is under way -/

/-- The steps that a probe task still takes for its event, and those of the event. -/
def ProbeTask.work (task : ProbeTask) : ℕ :=
  match task.pc with
  | .holding _ => 8
  | .accepted _ | .rejected => 2
  | .stamping _ | .counting => 1
  | .looping | .stopped => 0

/-- The steps of the consumer, with those of the event in its hands. -/
def RingbufConsumer.work : RingbufConsumer → ℕ
  | .stopped => 0
  | .receiving => 1
  | .forwarding _ => 3

/-- The steps for a parameter list that is sent to so many backends. -/
def paramsWork (backends : ℕ) : ℕ := 10 + 3 * backends

/-- The steps for a snapshot on its way to the engine. -/
def snapshotWork (backends : ℕ) : ℕ := 3 + paramsWork backends

namespace Delivery

variable {F : Type}

/-- How many backends a parameter list is sent to. -/
def backends (delivery : Delivery F) : ℕ := delivery.cells.oscBackends.value.length

/-- The steps of the engine. -/
def engineWork (delivery : Delivery F) : ℕ :=
  match delivery.engine with
  | .stopped => 0
  | .receiving => 1
  | .sending _ => 2 + paramsWork delivery.backends
  | .holding _ => 3 + paramsWork delivery.backends

/-- The steps of the dispatcher: three for each backend left, and those of `observe`. -/
def dispatcherWork (delivery : Delivery F) : ℕ :=
  match delivery.dispatcher with
  | .stopped => 0
  | .receiving => 1
  | .recording pending => 1 + pending.length
  | .loading _ _ => 7
  | .offering _ _ backends => 8 + 3 * backends.length
  | .crediting _ _ rest => 9 + 3 * rest.length
  | .sending _ _ _ rest => 10 + 3 * rest.length
  | .stamping _ backends => 9 + 3 * backends.length
  | .received _ => paramsWork delivery.backends

/-- The steps behind the aggregator. -/
def work (delivery : Delivery F) : ℕ :=
  delivery.snapshots.queue.length * snapshotWork delivery.backends + delivery.engineWork +
    delivery.mappedParams.queue.length * paramsWork delivery.backends +
    delivery.dispatcherWork

theorem work_snapshots (delivery next : Delivery F) (hengine : next.engine = delivery.engine)
    (hparams : next.mappedParams = delivery.mappedParams)
    (hdispatcher : next.dispatcher = delivery.dispatcher)
    (hcells : next.cells = delivery.cells) :
    next.work + delivery.snapshots.queue.length * snapshotWork delivery.backends =
      delivery.work + next.snapshots.queue.length * snapshotWork delivery.backends := by
  simp only [work, engineWork, dispatcherWork, backends, hengine, hparams, hdispatcher, hcells]
  omega

variable [Float64 F] [Libm F] {encode : OscBundle F → Option (List UInt8)}
  {delivery next : Delivery F} {label : DeliveryLabel F}

omit [Libm F] in
theorem observe_length (ms : F) : 1 ≤ (observe ms).length ∧ (observe ms).length ≤ 5 := by
  have hone : ∀ (b : Bool) (add : HistogramAdd), (if b then [add] else []).length ≤ 1 := by
    intro b add
    cases b <;> simp
  have h₁ := hone (Float64.le ms (Float64.lit 5)) .bucketLe5
  have h₂ := hone (Float64.le ms (Float64.lit 10)) .bucketLe10
  have h₃ := hone (Float64.le ms (Float64.lit 20)) .bucketLe20
  simp only [observe, List.length_append, List.length_cons, List.length_nil]
  omega

/-! ### The engine -/

omit [Float64 F] [Libm F] in
/-- A turn of the engine is paid for out of both channels and its own hands. -/
theorem work_lt_of_engine (hdispatcher : next.dispatcher = delivery.dispatcher)
    (hcells : next.cells = delivery.cells)
    (hcost : next.snapshots.queue.length * snapshotWork delivery.backends + next.engineWork +
        next.mappedParams.queue.length * paramsWork delivery.backends <
      delivery.snapshots.queue.length * snapshotWork delivery.backends + delivery.engineWork +
        delivery.mappedParams.queue.length * paramsWork delivery.backends) :
    next.work < delivery.work ∧ next.cells = delivery.cells := by
  have hbackends : next.backends = delivery.backends := by rw [backends, backends, hcells]
  have hsame : next.dispatcherWork = delivery.dispatcherWork := by
    simp only [dispatcherWork, hdispatcher, hbackends]
  refine ⟨?_, hcells⟩
  simp only [work, hbackends, hsame]
  omega

theorem receiveSnapshot_work_lt
    (taken : delivery.step encode .receiveSnapshot = some next) :
    next.work < delivery.work ∧ next.cells = delivery.cells := by
  cases step_moves taken with
  | held snapshot rest hengine hqueue =>
      refine work_lt_of_engine rfl rfl ?_
      simp only [engineWork, backends, hengine, hqueue, List.length_cons, Nat.succ_mul,
        snapshotWork, paramsWork]
      omega
  | snapshotsEnded hengine =>
      refine work_lt_of_engine rfl rfl ?_
      simp only [engineWork, hengine, stopEngine, Channel.dropReceiver_queue,
        Channel.dropSenders_queue]
      omega

theorem readRules_work_lt (taken : delivery.step encode .readRules = some next) :
    next.work < delivery.work ∧ next.cells = delivery.cells := by
  cases step_moves taken with
  | rulesPoisoned snapshot hengine =>
      refine work_lt_of_engine rfl rfl ?_
      simp only [engineWork, hengine]
      omega
  | mapPanicked snapshot hengine =>
      refine work_lt_of_engine rfl rfl ?_
      simp only [engineWork, hengine, stopEngine, Channel.dropReceiver_queue,
        Channel.dropSenders_queue]
      omega
  | mapped snapshot params hengine =>
      refine work_lt_of_engine rfl rfl ?_
      simp only [engineWork, backends, hengine]
      omega

theorem sendParams_work_lt (taken : delivery.step encode .sendParams = some next) :
    next.work < delivery.work ∧ next.cells = delivery.cells := by
  cases step_moves taken with
  | sendOk params after hengine hgone hroom hqueue =>
      refine work_lt_of_engine rfl rfl ?_
      simp only [engineWork, backends, hengine, hqueue, List.length_append, List.length_cons,
        List.length_nil, Nat.add_mul, Nat.one_mul]
      omega
  | sendFull params hengine =>
      refine work_lt_of_engine rfl rfl ?_
      simp only [engineWork, hengine]
      omega
  | sendClosed params hengine =>
      refine work_lt_of_engine rfl rfl ?_
      simp only [engineWork, hengine, stopEngine, Channel.dropReceiver_queue,
        Channel.dropSenders_queue]
      omega

/-! ### The dispatcher -/

omit [Float64 F] [Libm F] in
/-- The dispatcher pays with the parameter lists of its channel and of its own hands. -/
theorem work_lt_of_dispatcher (hsnapshots : next.snapshots = delivery.snapshots)
    (hengine : next.engine = delivery.engine) (hcells : next.cells = delivery.cells)
    (hcost : next.mappedParams.queue.length * paramsWork delivery.backends +
        next.dispatcherWork <
      delivery.mappedParams.queue.length * paramsWork delivery.backends +
        delivery.dispatcherWork) :
    next.work < delivery.work ∧ next.cells = delivery.cells := by
  have hbackends : next.backends = delivery.backends := by rw [backends, backends, hcells]
  have hsame : next.engineWork = delivery.engineWork := by
    simp only [engineWork, hengine, hbackends]
  refine ⟨?_, hcells⟩
  simp only [work, hsnapshots, hbackends, hsame]
  omega

theorem receiveParams_work_lt (taken : delivery.step encode .receiveParams = some next) :
    next.work < delivery.work ∧ next.cells = delivery.cells := by
  cases step_moves taken with
  | receiveEmpty params rest hdispatcher hqueue =>
      refine work_lt_of_dispatcher rfl rfl rfl ?_
      simp only [dispatcherWork, hdispatcher, hqueue, List.length_cons, Nat.succ_mul,
        paramsWork]
      omega
  | receiveFilled params rest hdispatcher hqueue =>
      refine work_lt_of_dispatcher rfl rfl rfl ?_
      simp only [dispatcherWork, backends, hdispatcher, hqueue, List.length_cons, Nat.succ_mul]
      omega
  | paramsEnded hdispatcher =>
      refine work_lt_of_dispatcher rfl rfl rfl ?_
      simp only [dispatcherWork, hdispatcher, Channel.dropReceiver_queue]
      omega

theorem readBackends_work_lt (taken : delivery.step encode .readBackends = some next) :
    next.work < delivery.work ∧ next.cells = delivery.cells := by
  cases step_moves taken with
  | backendsPoisoned params hdispatcher =>
      refine work_lt_of_dispatcher rfl rfl rfl ?_
      simp only [dispatcherWork, hdispatcher, paramsWork]
      omega
  | stamping params hdispatcher =>
      refine work_lt_of_dispatcher rfl rfl rfl ?_
      simp only [dispatcherWork, backends, hdispatcher, paramsWork]
      omega

theorem stamp_work_lt {now : SystemTime}
    (taken : delivery.step encode (.stamp now) = some next) :
    next.work < delivery.work ∧ next.cells = delivery.cells := by
  cases step_moves taken with
  | encodeFailed now params backends hdispatcher =>
      refine work_lt_of_dispatcher rfl rfl rfl ?_
      simp only [dispatcherWork, hdispatcher]
      omega
  | stamped now params backends packet hdispatcher =>
      refine work_lt_of_dispatcher rfl rfl rfl ?_
      simp only [dispatcherWork, hdispatcher]
      omega

/-- Three steps for each backend: the offer, the send and its credit. -/
theorem offer_work_lt (taken : delivery.step encode .offer = some next) :
    next.work < delivery.work ∧ next.cells = delivery.cells := by
  cases step_moves taken with
  | offered origin packet backend rest hdispatcher =>
      refine work_lt_of_dispatcher rfl rfl rfl ?_
      simp only [dispatcherWork, hdispatcher, List.length_cons]
      omega

theorem sendTo_work_lt {ok : Bool} (taken : delivery.step encode (.sendTo ok) = some next) :
    next.work < delivery.work ∧ next.cells = delivery.cells := by
  cases step_moves taken with
  | sendToOk origin packet backend rest hdispatcher =>
      refine work_lt_of_dispatcher rfl rfl rfl ?_
      simp only [dispatcherWork, hdispatcher]
      omega
  | sendToErr origin packet backend rest hdispatcher =>
      refine work_lt_of_dispatcher rfl rfl rfl ?_
      simp only [dispatcherWork, hdispatcher]
      omega

theorem credit_work_lt (taken : delivery.step encode .credit = some next) :
    next.work < delivery.work ∧ next.cells = delivery.cells := by
  cases step_moves taken with
  | credited origin packet rest hdispatcher =>
      refine work_lt_of_dispatcher rfl rfl rfl ?_
      simp only [dispatcherWork, hdispatcher]
      omega

theorem readClock_work_lt {nowUs : UInt64}
    (taken : delivery.step encode (.readClock nowUs) = some next) :
    next.work < delivery.work ∧ next.cells = delivery.cells := by
  cases step_moves taken with
  | clockRead nowUs origin packet hdispatcher =>
      refine work_lt_of_dispatcher rfl rfl rfl ?_
      simp only [dispatcherWork, hdispatcher, List.length_nil]
      omega

theorem load_work_lt (taken : delivery.step encode .load = some next) :
    next.work < delivery.work ∧ next.cells = delivery.cells := by
  cases step_moves taken with
  | loadNone origin nowUs hdispatcher =>
      refine work_lt_of_dispatcher rfl rfl rfl ?_
      simp only [dispatcherWork, hdispatcher]
      omega
  | loadSome origin nowUs ms hdispatcher =>
      have hlength := observe_length ms
      refine work_lt_of_dispatcher rfl rfl rfl ?_
      simp only [dispatcherWork, hdispatcher]
      omega

theorem record_work_lt (taken : delivery.step encode .record = some next) :
    next.work < delivery.work ∧ next.cells = delivery.cells := by
  cases step_moves taken with
  | recorded operation rest hdispatcher =>
      refine work_lt_of_dispatcher rfl rfl rfl ?_
      cases rest with
      | nil =>
          simp only [dispatcherWork, hdispatcher, List.isEmpty_nil, if_true, List.length_cons,
            List.length_nil]
          omega
      | cons head tail =>
          simp only [dispatcherWork, hdispatcher, List.isEmpty_cons, Bool.false_eq_true,
            if_false, List.length_cons]
          omega

theorem work_lt (hinternal : label.internal = true)
    (taken : delivery.step encode label = some next) :
    next.work < delivery.work ∧ next.cells = delivery.cells := by
  cases label with
  | receiveSnapshot => exact receiveSnapshot_work_lt taken
  | readRules => exact readRules_work_lt taken
  | sendParams => exact sendParams_work_lt taken
  | receiveParams => exact receiveParams_work_lt taken
  | readBackends => exact readBackends_work_lt taken
  | stamp now => exact stamp_work_lt taken
  | offer => exact offer_work_lt taken
  | sendTo ok => exact sendTo_work_lt taken
  | credit => exact credit_work_lt taken
  | readClock nowUs => exact readClock_work_lt taken
  | load => exact load_work_lt taken
  | record => exact record_work_lt taken
  | _ => cases hinternal

/-! ## Nothing left to do behind the aggregator -/

/-- The dispatcher is never left with nothing to observe in its hands. -/
def Observing (delivery : Delivery F) : Prop := delivery.dispatcher ≠ .recording []

theorem Observing.step (observing : delivery.Observing)
    (taken : delivery.step encode label = some next) : next.Observing := by
  cases step_moves taken with
  | loadSome origin nowUs ms hdispatcher =>
      have hlength := (observe_length ms).1
      intro hempty
      obtain hnil : observe ms = [] := OscDispatcher.recording.inj hempty
      simp [hnil] at hlength
  | recorded operation rest hdispatcher =>
      cases rest with
      | nil => exact fun hempty => by cases hempty
      | cons head tail => exact fun hempty => by cases hempty
  | _ => first | exact observing | exact fun hempty => by cases hempty

/-- Both tasks behind the aggregator wait for what is not there, or have left their loops;
the dispatcher does not outlive the engine. -/
structure Quiet (delivery : Delivery F) : Prop where
  engine : delivery.engine = .stopped ∨
    delivery.engine = .receiving ∧ delivery.snapshots.queue = []
  dispatcher : delivery.dispatcher = .stopped ∨
    delivery.dispatcher = .receiving ∧ delivery.mappedParams.queue = []
  together : delivery.engine = .stopped → delivery.dispatcher = .stopped

/-- No step of these two tasks is possible. -/
def Stuck (encode : OscBundle F → Option (List UInt8)) (delivery : Delivery F) : Prop :=
  ∀ label, label.internal = true →
    delivery.step encode label = none

theorem Stuck.engine (stuck : Stuck encode delivery) :
    delivery.engine = .stopped ∨
      delivery.engine = .receiving ∧ delivery.snapshots.recv = .pending := by
  cases hengine : delivery.engine with
  | stopped => exact .inl rfl
  | receiving =>
      have hnone := stuck .receiveSnapshot rfl
      simp only [step, receiveSnapshot, hengine] at hnone
      split at hnone
      · cases hnone
      · cases hnone
      · rename_i hpending
        exact .inr ⟨rfl, hpending⟩
  | holding snapshot =>
      have hnone := stuck .readRules rfl
      simp only [step, readRules, hengine] at hnone
      split at hnone <;> cases hnone
  | sending params =>
      have hnone := stuck .sendParams rfl
      simp only [step, sendParams, hengine] at hnone
      split at hnone <;> cases hnone

theorem Stuck.dispatcher (stuck : Stuck encode delivery) (observing : delivery.Observing) :
    delivery.dispatcher = .stopped ∨
      delivery.dispatcher = .receiving ∧ delivery.mappedParams.recv = .pending := by
  cases hdispatcher : delivery.dispatcher with
  | stopped => exact .inl rfl
  | receiving =>
      have hnone := stuck .receiveParams rfl
      simp only [step, receiveParams, hdispatcher] at hnone
      split at hnone
      · split at hnone <;> cases hnone
      · cases hnone
      · rename_i hpending
        exact .inr ⟨rfl, hpending⟩
  | received params =>
      have hnone := stuck .readBackends rfl
      simp only [step, readBackends, hdispatcher] at hnone
      split at hnone <;> cases hnone
  | stamping params backends =>
      have hnone := stuck (.stamp ⟨0⟩) rfl
      simp only [step, stamp, hdispatcher] at hnone
      split at hnone <;> cases hnone
  | offering origin packet backends =>
      cases backends with
      | nil =>
          have hnone := stuck (.readClock 0) rfl
          simp [step, readClock, hdispatcher] at hnone
      | cons backend rest =>
          have hnone := stuck .offer rfl
          simp [step, offer, hdispatcher] at hnone
  | sending origin packet backend rest =>
      have hnone := stuck (.sendTo true) rfl
      simp [step, sendTo, hdispatcher] at hnone
  | crediting origin packet rest =>
      have hnone := stuck .credit rfl
      simp [step, credit, hdispatcher] at hnone
  | loading origin nowUs =>
      have hnone := stuck .load rfl
      simp only [step, load, hdispatcher] at hnone
      split at hnone <;> cases hnone
  | recording pending =>
      cases pending with
      | nil => exact absurd hdispatcher observing
      | cons operation rest =>
          have hnone := stuck .record rfl
          simp [step, record, hdispatcher] at hnone

/-- The two tasks are stuck exactly when they are quiet. -/
theorem stuck_iff_quiet (wired : delivery.Wired) (observing : delivery.Observing) :
    Stuck encode delivery ↔ delivery.Quiet := by
  constructor
  · intro stuck
    have hengine := stuck.engine
    have hdispatcher := stuck.dispatcher observing
    refine ⟨?_, ?_, ?_⟩
    · exact hengine.imp_right fun h => ⟨h.1, (Channel.recv_pending_iff.mp h.2).1⟩
    · exact hdispatcher.imp_right fun h => ⟨h.1, (Channel.recv_pending_iff.mp h.2).1⟩
    · intro hstopped
      refine hdispatcher.resolve_right fun h => ?_
      have hsenders := (Channel.recv_pending_iff.mp h.2).2
      rw [wired.paramsSenders.mpr hstopped] at hsenders
      cases hsenders
  · intro quiet label hinternal
    have hengine := quiet.engine.imp_right And.left
    have hdispatcher := quiet.dispatcher.imp_right And.left
    cases hstep : delivery.step encode label with
    | none => rfl
    | some next =>
        cases step_moves hstep with
        | held snapshot rest hrunning hqueue =>
            rcases quiet.engine with hstopped | ⟨_, hempty⟩
            · simp [hstopped] at hrunning
            · simp [hempty] at hqueue
        | snapshotsEnded hrunning hended =>
            have hsenders := (Channel.recv_ended_iff.mp hended).2
            have hstopped := wired.aggregator (wired.snapshotsSenders.mp hsenders)
            simp [hstopped] at hrunning
        | rulesPoisoned snapshot hrunning => simp [hrunning] at hengine
        | mapPanicked snapshot hrunning => simp [hrunning] at hengine
        | mapped snapshot params hrunning => simp [hrunning] at hengine
        | sendOk params after hrunning => simp [hrunning] at hengine
        | sendFull params hrunning => simp [hrunning] at hengine
        | sendClosed params hrunning => simp [hrunning] at hengine
        | receiveEmpty params rest hrunning hqueue =>
            rcases quiet.dispatcher with hstopped | ⟨_, hempty⟩
            · simp [hstopped] at hrunning
            · simp [hempty] at hqueue
        | receiveFilled params rest hrunning hqueue =>
            rcases quiet.dispatcher with hstopped | ⟨_, hempty⟩
            · simp [hstopped] at hrunning
            · simp [hempty] at hqueue
        | paramsEnded hrunning hended =>
            have hsenders := (Channel.recv_ended_iff.mp hended).2
            have hstopped := quiet.together (wired.paramsSenders.mp hsenders)
            simp [hstopped] at hrunning
        | backendsPoisoned params hrunning => simp [hrunning] at hdispatcher
        | stamping params hrunning => simp [hrunning] at hdispatcher
        | encodeFailed now params backends hrunning => simp [hrunning] at hdispatcher
        | stamped now params backends packet hrunning => simp [hrunning] at hdispatcher
        | offered origin packet backend rest hrunning => simp [hrunning] at hdispatcher
        | sendToOk origin packet backend rest hrunning => simp [hrunning] at hdispatcher
        | sendToErr origin packet backend rest hrunning => simp [hrunning] at hdispatcher
        | credited origin packet rest hrunning => simp [hrunning] at hdispatcher
        | clockRead nowUs origin packet hrunning => simp [hrunning] at hdispatcher
        | loadNone origin nowUs hrunning => simp [hrunning] at hdispatcher
        | loadSome origin nowUs ms hrunning => simp [hrunning] at hdispatcher
        | recorded operation rest hrunning => simp [hrunning] at hdispatcher
        | _ => cases hinternal

end Delivery

/-! ## The probes and storage -/

namespace ProbeTask

/-- A send costs six, and the item it may have put into the channel is worth five. -/
theorem sent_work {task : ProbeTask} {event : RawEvent} (answer : TrySend)
    (hoffered : task.offered = some event) : (task.sent event answer).work + 6 ≤ task.work := by
  have hpc : task.pc = .holding event := by
    unfold offered at hoffered
    split at hoffered
    · rename_i hpc
      obtain rfl := Option.some.inj hoffered
      exact hpc
    · cases hoffered
  cases answer with
  | ok => simp [work, sent, hpc]
  | full => simp [work, sent, hpc]
  | closed => cases hkind : task.kind <;> simp [work, sent, hpc, hkind]

theorem account_work {task next : ProbeTask} {cumulativeLost after : UInt64}
    (h : task.account cumulativeLost = some (next, after)) : next.work < task.work := by
  unfold account at h
  split at h
  · rename_i hpc
    cases h
    simp [work, hpc]
  · rename_i hpc
    cases h
    simp [work, hpc]
  · rename_i hpc
    cases h
    simp [work, hpc]
  · rename_i hpc
    cases h
    simp [work, hpc]
  · cases h

theorem idle_iff {task : ProbeTask} (cumulativeLost : UInt64) :
    task.Idle ↔ task.offered = none ∧ task.account cumulativeLost = none := by
  unfold Idle offered account
  cases task.pc <;> simp

end ProbeTask

namespace Tapped

variable {F : Type}

/-- The steps of storage: two for each tapped snapshot, and one to see the channel end. -/
def storageWork (tapped : Tapped F) : ℕ :=
  tapped.spawned.length + tapped.writing.toList.length +
    match tapped.dbTx with
    | none => 0
    | some channel => 2 * channel.queue.length + if channel.receiverGone then 0 else 1

/-- Nothing is left to be stored. -/
structure Stored (tapped : Tapped F) : Prop where
  spawned : tapped.spawned = []
  writing : tapped.writing = none
  snapshots : ∀ channel, tapped.dbTx = some channel →
    channel.receiverGone = true ∨ channel.queue = [] ∧ channel.sendersGone = false

theorem storageWork_tap (tapped : Tapped F) (snapshot : StateSnapshot F) :
    storageWork { tapped with
      dbTx := tapped.dbTx.map fun channel => (channel.trySend snapshot).2 } ≤
        tapped.storageWork + 2 := by
  unfold storageWork
  cases tapped.dbTx with
  | none => simp
  | some channel =>
      have hsend := (Prod.mk.eta (p := channel.trySend snapshot)).symm
      have hqueue := Channel.trySend_length_le hsend
      have hgone := (Channel.trySend_ends hsend).1
      simp only [Option.map_some]
      rw [hgone]
      omega

theorem storageWork_stopAggregator (tapped : Tapped F) :
    tapped.stopAggregator.storageWork = tapped.storageWork := by
  unfold storageWork stopAggregator
  cases tapped.dbTx <;> rfl

variable [Float64 F] {tapped next : Tapped F} {label : TappedLabel}

/-- A step of storage that needs no request is paid for. -/
theorem storageWork_lt (hinternal : label.internal = true)
    (taken : tapped.step label = some next) : next.storageWork < tapped.storageWork := by
  cases label with
  | insertEvent position answer =>
      simp only [step, insertEvent] at taken
      split at taken
      · cases taken
      · rename_i event hposition
        cases taken
        obtain ⟨hlt, _⟩ := List.getElem?_eq_some_iff.mp hposition
        simp only [storageWork, List.length_eraseIdx_of_lt hlt]
        omega
  | takeSnapshot =>
      simp only [step, takeSnapshot] at taken
      split at taken
      · rename_i channel hwriting hchannel
        split at taken
        · cases taken
        · rename_i hopen
          split at taken
          · rename_i snapshot rest hrecv
            obtain ⟨hqueue, hreceiver, _⟩ := Channel.recv_item hrecv
            cases taken
            simp only [storageWork, hwriting, hchannel, hqueue, hreceiver, hopen,
              Option.toList_some, Option.toList_none, List.length_cons, List.length_nil]
            omega
          · cases taken
            simp [storageWork, hwriting, hchannel, hopen]
          · cases taken
      · cases taken
  | insertSnapshot answer =>
      simp only [step, insertSnapshot] at taken
      split at taken
      · cases taken
      · rename_i snapshot hwriting
        cases taken
        simp only [storageWork, hwriting, Option.toList_some, Option.toList_none,
          List.length_cons, List.length_nil]
        omega
  | _ => cases hinternal

/-- Storage is stuck exactly when nothing is left to be stored. -/
theorem stored_iff :
    tapped.Stored ↔
      ∀ label, label.internal = true →
        tapped.step label = none := by
  constructor
  · intro stored label hinternal
    cases label with
    | insertEvent position answer =>
        simp [step, insertEvent, stored.spawned]
    | takeSnapshot =>
        simp only [step, takeSnapshot, stored.writing]
        cases hchannel : tapped.dbTx with
        | none => rfl
        | some channel =>
            rcases stored.snapshots channel hchannel with hgone | hpending
            · simp [hgone]
            · simp [Channel.recv_pending_iff.mpr hpending]
    | insertSnapshot answer => simp [step, insertSnapshot, stored.writing]
    | _ => cases hinternal
  · intro stuck
    have hwriting : tapped.writing = none := by
      have hnone := stuck (.insertSnapshot none) rfl
      cases hwriting : tapped.writing with
      | none => rfl
      | some snapshot => simp [step, insertSnapshot, hwriting] at hnone
    refine ⟨?_, hwriting, ?_⟩
    · have hnone := stuck (.insertEvent 0 none) rfl
      cases hspawned : tapped.spawned with
      | nil => rfl
      | cons event rest => simp [step, insertEvent, hspawned] at hnone
    · intro channel hchannel
      have hnone := stuck .takeSnapshot rfl
      simp only [step, takeSnapshot, hwriting, hchannel] at hnone
      split at hnone
      · rename_i hgone
        exact .inl hgone
      · split at hnone
        · cases hnone
        · cases hnone
        · rename_i hpending
          exact .inr (Channel.recv_pending_iff.mp hpending)

end Tapped

/-! ## All tasks -/

namespace Tasks

variable {ι F : Type}

/-- The steps of the aggregator, with those of the snapshot in its hands. -/
def aggregatorWork (backends : ℕ) : AggregatorPc F → ℕ
  | .stopped => 0
  | .selecting => 1
  | .tapping _ => 4
  | .forwarding _ => 5 + snapshotWork backends
  | .publishing _ => 6 + snapshotWork backends

/-- The steps up to the aggregator and in storage. -/
def inputWork [Fintype ι] (tasks : Tasks ι F) : ℕ :=
  ∑ i, (tasks.probes i).work + tasks.rawEvents.queue.length * 5 +
    tasks.tapped.consumer.work + tasks.aggEvents.queue.length +
    aggregatorWork tasks.delivery.backends tasks.tapped.pc + tasks.tapped.storageWork

/-- The steps that what is under way can still cause. -/
def work [Fintype ι] (tasks : Tasks ι F) : ℕ := tasks.inputWork + tasks.delivery.work

/-- Nothing is under way: no task is between two turns of its loop, and every queue that
still has a reader is empty. -/
structure Quiet (tasks : Tasks ι F) : Prop where
  probes : ∀ i, (tasks.probes i).Idle
  consumer : tasks.tapped.consumer = .stopped ∨
    tasks.tapped.consumer = .receiving ∧ tasks.rawEvents.queue = []
  aggregator : tasks.tapped.pc = .stopped ∨
    tasks.tapped.pc = .selecting ∧ tasks.aggEvents.queue = []
  storage : tasks.tapped.Stored
  output : tasks.delivery.Quiet

variable [Float64 F] [Libm F] [DecidableEq ι] {encode : OscBundle F → Option (List UInt8)}
  {tasks next : Tasks ι F} {label : TasksLabel ι F}

omit [Libm F] in
/-- A step of a probe task that needs no event is paid for. -/
theorem probe_work_lt [Fintype ι] {before after : Ingest ι F} {label : IngestLabel ι}
    (hinternal : label.internal = true)
    (taken : before.step label = some after) :
    ∑ i, (after.probes i).work + after.rawEvents.queue.length * 5 <
      ∑ i, (before.probes i).work + before.rawEvents.queue.length * 5 := by
  cases label with
  | send probe =>
      obtain ⟨event, answer, channel, hoffered, hsend, rfl⟩ := Ingest.send_cases taken
      have hcost := ProbeTask.sent_work answer hoffered
      have hsum := sum_component_update before.probes probe
        ((before.probes probe).sent event answer) ProbeTask.work
      have hqueue := Channel.trySend_length_le hsend
      simp only [Ingest.setProbe]
      omega
  | account probe =>
      obtain ⟨⟨task, lost⟩, haccount, rfl⟩ := Option.map_eq_some_iff.mp taken
      have hcost := ProbeTask.account_work haccount
      have hsum := sum_component_update before.probes probe task ProbeTask.work
      simp only [Ingest.setProbe]
      omega
  | _ => cases hinternal

omit [Float64 F] [Libm F] [DecidableEq ι] in
/-- The aggregator and the tasks before it pay for what they put into the snapshot channel. -/
theorem work_lt_of_input [Fintype ι] {tasks next : Tasks ι F}
    (hengine : next.engine = tasks.engine) (hparams : next.mappedParams = tasks.mappedParams)
    (hdispatcher : next.dispatcher = tasks.dispatcher) (hcells : next.cells = tasks.cells)
    (hinput : next.inputWork +
        next.snapshots.queue.length * snapshotWork tasks.delivery.backends <
      tasks.inputWork +
        tasks.snapshots.queue.length * snapshotWork tasks.delivery.backends) :
    next.work < tasks.work := by
  have hdelivery : next.delivery.work +
      tasks.snapshots.queue.length * snapshotWork tasks.delivery.backends =
        tasks.delivery.work +
          next.snapshots.queue.length * snapshotWork tasks.delivery.backends :=
    tasks.delivery.work_snapshots next.delivery hengine hparams hdispatcher hcells
  unfold work
  omega

section Paid

variable [Fintype ι]

/-! ### The consumer -/

theorem receive_work_lt (taken : tasks.step encode .receive = some next) :
    next.work < tasks.work := by
  cases step_moves taken with
  | received event rest hconsumer hrecv =>
      obtain ⟨hqueue, _⟩ := Channel.recv_item hrecv
      refine work_lt_of_input rfl rfl rfl rfl ?_
      simp only [inputWork, delivery, Delivery.backends, Tapped.storageWork, hconsumer, hqueue,
        RingbufConsumer.work, List.length_append, List.length_cons, List.length_nil]
      omega
  | rawEnded hconsumer =>
      refine work_lt_of_input rfl rfl rfl rfl ?_
      simp only [inputWork, delivery, Delivery.backends, Tapped.storageWork, hconsumer,
        RingbufConsumer.work, Channel.dropReceiver_queue, Channel.dropSenders_queue]
      omega

theorem forward_work_lt (taken : tasks.step encode .forward = some next) :
    next.work < tasks.work := by
  cases step_moves taken with
  | forwarded event answer after hconsumer hsend =>
      have hqueue := Channel.trySend_length_le hsend
      refine work_lt_of_input rfl rfl rfl rfl ?_
      simp only [inputWork, delivery, Delivery.backends, Tapped.storageWork, hconsumer,
        RingbufConsumer.work]
      omega
  | aggregatorGone event after hconsumer hsend =>
      have hqueue := Channel.trySend_length_le hsend
      refine work_lt_of_input rfl rfl rfl rfl ?_
      simp only [inputWork, delivery, Delivery.backends, Tapped.storageWork, hconsumer,
        RingbufConsumer.work, Channel.dropReceiver_queue, Channel.dropSenders_queue]
      omega

/-! ### The aggregator -/

theorem aggregate_work_lt (taken : tasks.step encode .aggregate = some next) :
    next.work < tasks.work := by
  cases step_moves taken with
  | pushed event rest hpc hrecv =>
      obtain ⟨hqueue, _⟩ := Channel.recv_item hrecv
      refine work_lt_of_input rfl rfl rfl rfl ?_
      simp only [inputWork, delivery, Delivery.backends, Tapped.storageWork, hqueue,
        List.length_cons]
      omega
  | aggEnded hpc hrecv =>
      refine work_lt_of_input rfl rfl rfl rfl ?_
      simp only [inputWork, delivery, Delivery.backends, Tapped.storageWork_stopAggregator,
        hpc, Channel.dropReceiver_queue, Channel.dropSenders_queue]
      simp only [Tapped.stopAggregator, aggregatorWork]
      omega

theorem publish_work_lt (taken : tasks.step encode .publish = some next) :
    next.work < tasks.work := by
  cases step_moves taken with
  | published snapshot hpc =>
      refine work_lt_of_input rfl rfl rfl rfl ?_
      simp only [inputWork, delivery, Delivery.backends, Tapped.storageWork, aggregatorWork, hpc]
      omega

/-- The snapshot that goes to the engine takes its price along. -/
theorem offer_work_lt (taken : tasks.step encode .offer = some next) :
    next.work < tasks.work := by
  cases step_moves taken with
  | offered snapshot answer after hpc hsend =>
      have hqueue := Nat.mul_le_mul_right (snapshotWork tasks.delivery.backends)
        (Channel.trySend_length_le hsend)
      rw [Nat.succ_mul] at hqueue
      refine work_lt_of_input rfl rfl rfl rfl ?_
      simp only [inputWork, delivery, Delivery.backends, Tapped.storageWork, aggregatorWork, hpc]
        at hqueue ⊢
      omega
  | engineGone snapshot after hpc hsend =>
      have hqueue := Nat.mul_le_mul_right (snapshotWork tasks.delivery.backends)
        (Channel.trySend_length_le hsend)
      rw [Nat.succ_mul] at hqueue
      refine work_lt_of_input rfl rfl rfl rfl ?_
      simp only [inputWork, delivery, Delivery.backends, Tapped.storageWork_stopAggregator,
        hpc, Channel.dropReceiver_queue, Channel.dropSenders_queue] at hqueue ⊢
      simp only [Tapped.stopAggregator, aggregatorWork]
      omega

theorem tap_work_lt (taken : tasks.step encode .tap = some next) : next.work < tasks.work := by
  cases step_moves taken with
  | tapped snapshot hpc =>
      have hcost := tasks.tapped.storageWork_tap snapshot
      refine work_lt_of_input rfl rfl rfl rfl ?_
      simp only [inputWork, delivery, Delivery.backends, aggregatorWork, hpc]
      simp only [Tapped.storageWork] at hcost ⊢
      omega

/-! ### All of them -/

/-- Every step that needs nothing from outside is paid for. -/
theorem work_lt (hinternal : label.internal = true)
    (taken : tasks.step encode label = some next) : next.work < tasks.work := by
  cases label with
  | probe label =>
      cases step_moves taken with
      | probe _ ingest hlabel hstep =>
          have hcost := probe_work_lt hinternal hstep
          simp only [Tasks.ingest] at hcost
          refine work_lt_of_input rfl rfl rfl rfl ?_
          simp only [inputWork, setProbes, delivery, Delivery.backends]
          omega
  | receive => exact receive_work_lt taken
  | forward => exact forward_work_lt taken
  | aggregate => exact aggregate_work_lt taken
  | tick nowUs => cases hinternal
  | publish => exact publish_work_lt taken
  | offer => exact offer_work_lt taken
  | tap => exact tap_work_lt taken
  | store label =>
      cases step_moves taken with
      | stored _ tapped hlabel hstep =>
          have hcost := Tapped.storageWork_lt hinternal hstep
          obtain ⟨hconsumer, _, hpc, _⟩ := store_loops hlabel hstep
          refine work_lt_of_input rfl rfl rfl rfl ?_
          simp only [inputWork, delivery, Delivery.backends, hconsumer, hpc]
          omega
  | output label =>
      cases step_moves taken with
      | output _ delivery hlabel hstep =>
          have hview := delivery_setOutput hlabel hstep
          obtain ⟨hcost, hcells⟩ := Delivery.work_lt hinternal hstep
          have hbackends : delivery.backends = tasks.delivery.backends := by
            rw [Delivery.backends, hcells]
            rfl
          have hinput : (tasks.setOutput delivery).inputWork = tasks.inputWork := by
            simp only [inputWork, hview, hbackends]
            rfl
          unfold work
          rw [hinput, hview]
          omega

end Paid

/-- The dispatcher is never left with nothing to observe in its hands. -/
theorem observing_step (observing : tasks.delivery.Observing)
    (taken : tasks.step encode label = some next) : next.delivery.Observing := by
  cases step_moves taken with
  | output label delivery hlabel hstep =>
      rw [delivery_setOutput hlabel hstep]
      exact observing.step hstep
  | _ => exact observing

/-- No step is possible that needs nothing from outside. -/
def Stuck (encode : OscBundle F → Option (List UInt8)) (tasks : Tasks ι F) : Prop :=
  ∀ label : TasksLabel ι F, label.internal = true → tasks.step encode label = none

theorem Stuck.probes (stuck : Stuck encode tasks) (i : ι) : (tasks.probes i).Idle := by
  rw [ProbeTask.idle_iff tasks.cumulativeLostEvents]
  constructor
  · have hnone := stuck (.probe (.send i)) rfl
    cases hoffered : (tasks.probes i).offered with
    | none => rfl
    | some event =>
        simp [step, IngestLabel.movesProbe, Ingest.step, Ingest.send, Tasks.ingest, hoffered]
          at hnone
  · have hnone := stuck (.probe (.account i)) rfl
    simpa [step, IngestLabel.movesProbe, Ingest.step, Tasks.ingest] using hnone

theorem Stuck.consumer (stuck : Stuck encode tasks) :
    tasks.tapped.consumer = .stopped ∨
      tasks.tapped.consumer = .receiving ∧ tasks.rawEvents.queue = [] := by
  cases hconsumer : tasks.tapped.consumer with
  | stopped => exact .inl rfl
  | receiving =>
      have hnone := stuck .receive rfl
      cases hrecv : tasks.rawEvents.recv with
      | item event rest =>
          simp [step, receive, hrecv, Tapped.receive, hconsumer, RingbufConsumer.received]
            at hnone
      | ended =>
          simp [step, receive, hrecv, Tapped.receive, hconsumer, RingbufConsumer.received]
            at hnone
      | pending => exact .inr ⟨rfl, (Channel.recv_pending_iff.mp hrecv).1⟩
  | forwarding event =>
      have hnone := stuck .forward rfl
      rcases hsend : tasks.aggEvents.trySend event with ⟨answer, after⟩
      cases answer <;>
        simp [step, forward, hsend, Tapped.forward, hconsumer, RingbufConsumer.forwarded]
          at hnone

theorem Stuck.aggregator (stuck : Stuck encode tasks) :
    tasks.tapped.pc = .stopped ∨
      tasks.tapped.pc = .selecting ∧ tasks.aggEvents.queue = [] := by
  cases hpc : tasks.tapped.pc with
  | stopped => exact .inl rfl
  | selecting =>
      have hnone := stuck .aggregate rfl
      cases hrecv : tasks.aggEvents.recv with
      | item event rest => simp [step, aggregate, hrecv, Tapped.aggregate, hpc] at hnone
      | ended => simp [step, aggregate, hrecv, Tapped.aggregate, hpc] at hnone
      | pending => exact .inr ⟨rfl, (Channel.recv_pending_iff.mp hrecv).1⟩
  | publishing snapshot =>
      have hnone := stuck .publish rfl
      simp [step, Tapped.publish, hpc] at hnone
  | forwarding snapshot =>
      have hnone := stuck .offer rfl
      rcases hsend : tasks.snapshots.trySend ⟨tasks.emissions, snapshot⟩ with ⟨answer, after⟩
      cases answer <;> simp [step, offer, hsend, Tapped.offer, hpc] at hnone
  | tapping snapshot =>
      have hnone := stuck .tap rfl
      simp [step, Tapped.tap, hpc] at hnone

theorem Stuck.quiet (stuck : Stuck encode tasks) (wired : tasks.Wired)
    (observing : tasks.delivery.Observing) : tasks.Quiet where
  probes := stuck.probes
  consumer := stuck.consumer
  aggregator := stuck.aggregator
  storage := by
    rw [Tapped.stored_iff]
    intro label hinternal
    have hmoves : label.movesStore = true := by cases label <;> first | rfl | cases hinternal
    simpa [step, hmoves] using stuck (.store label) hinternal
  output := by
    rw [← Delivery.stuck_iff_quiet wired.output observing]
    intro label hinternal
    have hmoves : label.movesOutput = true := by cases label <;> first | rfl | cases hinternal
    simpa [step, hmoves] using stuck (.output label) hinternal

theorem Quiet.stuck (quiet : tasks.Quiet) (wired : tasks.Wired)
    (observing : tasks.delivery.Observing) : Stuck encode tasks := by
  intro label hinternal
  have hconsumer := quiet.consumer.imp_right And.left
  have hselecting := quiet.aggregator.imp_right And.left
  cases hstep : tasks.step encode label with
  | none => rfl
  | some next =>
      cases step_moves hstep with
      | probe label ingest hlabel hprobe =>
          cases label with
          | send i =>
              obtain ⟨event, _, _, hoffered, _⟩ := Ingest.send_cases hprobe
              have hidle := ((ProbeTask.idle_iff 0).mp (quiet.probes i)).1
              exact absurd (hidle.symm.trans hoffered) (by simp)
          | account i =>
              obtain ⟨books, haccount, _⟩ := Option.map_eq_some_iff.mp hprobe
              have hidle := ((ProbeTask.idle_iff tasks.cumulativeLostEvents).mp (quiet.probes i)).2
              exact absurd (hidle.symm.trans haccount) (by simp)
          | _ => cases hinternal
      | received event rest hrunning hrecv =>
          have hqueue := (Channel.recv_item hrecv).1
          rcases quiet.consumer with hstopped | ⟨_, hempty⟩
          · simp [hstopped] at hrunning
          · simp [hempty] at hqueue
      | rawEnded hrunning hrecv =>
          have hsenders := (Channel.recv_ended_iff.mp hrecv).2
          simp [wired.rawSenders] at hsenders
      | forwarded event answer after hrunning => simp [hrunning] at hconsumer
      | aggregatorGone event after hrunning => simp [hrunning] at hconsumer
      | pushed event rest hpc hrecv =>
          have hqueue := (Channel.recv_item hrecv).1
          rcases quiet.aggregator with hstopped | ⟨_, hempty⟩
          · simp [hstopped] at hpc
          · simp [hempty] at hqueue
      | aggEnded hpc hrecv =>
          have hsenders := (Channel.recv_ended_iff.mp hrecv).2
          have hstopped := wired.consumer (wired.aggSenders.mp hsenders)
          simp [hpc, AggregatorPc.isStopped] at hstopped
      | published snapshot hpc => simp [hpc] at hselecting
      | offered snapshot answer after hpc => simp [hpc] at hselecting
      | engineGone snapshot after hpc => simp [hpc] at hselecting
      | tapped snapshot hpc => simp [hpc] at hselecting
      | stored label tapped hlabel hstore =>
          have hnone := Tapped.stored_iff.mp quiet.storage label hinternal
          exact absurd (hnone.symm.trans hstore) (by simp)
      | output label delivery hlabel houtput =>
          have hstuck : Delivery.Stuck encode tasks.delivery :=
            (Delivery.stuck_iff_quiet wired.output observing).mpr quiet.output
          have hnone := hstuck label hinternal
          exact absurd (hnone.symm.trans houtput) (by simp)
      | ticked => cases hinternal

/-- Left to themselves the tasks settle: from every reachable state only so many steps are
possible that need neither an event nor a tick nor a request, whatever the order of the
tasks, and where no more are possible every event, snapshot and parameter list under way
has arrived or was dropped. -/
theorem settles [Fintype ι] {kinds : ι → ProbeKind} {config : Config F} {db : Database F}
    {trace : List (Tasks ι F × TasksLabel ι F)}
    (run : Run (step encode) (started kinds config db) trace tasks) :
    (∀ {later final}, Run (step encode) tasks later final →
      (∀ visit ∈ later, visit.2.internal = true) → later.length ≤ tasks.work) ∧
    (∃ later final, Run (step encode) tasks later final ∧
      (∀ visit ∈ later, visit.2.internal = true) ∧ Quiet final) ∧
    (tasks.Quiet ↔ Stuck encode tasks) := by
  have hreached : ∀ {reached : Tasks ι F} {whole : List (Tasks ι F × TasksLabel ι F)},
      Run (step encode) (started kinds config db) whole reached →
        reached.Wired ∧ reached.delivery.Observing := by
    intro reached whole toReached
    exact toReached.state_invariant (fun tasks => tasks.Wired ∧ tasks.delivery.Observing)
      ⟨wired_started kinds config db, fun hempty => by cases hempty⟩
      fun both taken => ⟨both.1.step taken, observing_step both.2 taken⟩
  refine ⟨?_, ?_, ?_⟩
  · intro later final rest hinternal
    have hbound := rest.length_add_rank_le work_lt hinternal
    omega
  · have hend : ∃ later final, Run (step encode) tasks later final ∧
        (∀ visit ∈ later, visit.2.internal = true) ∧ Stuck encode final :=
      Run.exists_run_to_end work_lt tasks
    obtain ⟨later, final, rest, hinternal, hstuck⟩ := hend
    obtain ⟨wired, observing⟩ := hreached (run.append rest)
    exact ⟨later, final, rest, hinternal, Stuck.quiet hstuck wired observing⟩
  · obtain ⟨wired, observing⟩ := hreached run
    exact ⟨fun quiet => quiet.stuck wired observing, fun stuck => stuck.quiet wired observing⟩

/-- An event, a tick and a parameter list later everything has arrived. -/
theorem settles_eventSent :
    ∃ trace final, Run (step Delivery.encodeZeros) oneProbe trace final ∧ ¬ final.Quiet ∧
      ∃ later settled, Run (step Delivery.encodeZeros) final later settled ∧
        (∀ visit ∈ later, visit.2.internal = true) ∧ Quiet settled := by
  have run : Run (step Delivery.encodeZeros) oneProbe _ _ := execute_sound eventSent rfl
  refine ⟨_, _, run, ?_, (settles run).2.1⟩
  intro quiet
  cases quiet.storage.spawned

end Tasks

end DaemonChoir.Conductor
