import DaemonChoir.Conductor.Aggregator
import DaemonChoir.Conductor.ProbeManager
import DaemonChoir.Conductor.Ringbuf
import DaemonChoir.Foundation.Accounting
set_option autoImplicit false

/-!
# Conductor: from the probes to the window

The probe tasks, the raw channel, the consumer, the channel to the aggregator, and the
aggregator's receives and ticks.  A step is one operation of one task on what it shares
with others; every interleaving of such steps is a run.

Outside are the events that the probes generate, the clock of a tick, and the choice of
who moves next; `select!` is such a choice, between a receive and a tick of the aggregator.
The database insertion that the consumer spawns for an event is left out here, because
`Isolation` shows that the loops do not notice it.

A probe task offers an event, and then keeps its books by one or two more operations; the
states between them are states of the task (`ProbeTask`), since the loss counter may be
swapped by a tick in between.  `EventLoss`, `LossCounters`, `EventOrder` and `Staleness`
prove what holds over all runs.  They use the step function through the five `_cases`
lemmas at the end of this module only.
-/

namespace DaemonChoir.Conductor

open DaemonChoir.Common DaemonChoir.Foundation Finset

/-- The capacity of `raw_events` and of `agg_events`. -/
abbrev eventCapacity : Nat := 2048

/-- The tasks up to the aggregator and what they share. -/
structure Ingest (ι F : Type) where
  probes : ι → ProbeTask
  shutdown : Bool
  cumulativeLostEvents : UInt64
  rawEvents : Channel eventCapacity RawEvent
  consumer : RingbufConsumer
  aggEvents : Channel eventCapacity RawEvent
  aggregator : Aggregator F
  /-- The loop of the aggregator has not been left. -/
  aggregating : Bool

/-- Which task moves, with what comes from outside. -/
inductive IngestLabel (ι : Type) where
  /-- A probe has an event. -/
  | generate (probe : ι) (event : RawEvent)
  /-- `tx.try_send(event)` of a probe. -/
  | send (probe : ι)
  /-- The next operation of a probe on its counters. -/
  | account (probe : ι)
  /-- A probe leaves its loop. -/
  | leave (probe : ι)
  /-- `ProbeManager::shutdown` -/
  | shutdown
  /-- `rx.recv()` of the consumer. -/
  | receive
  /-- `aggregator_tx.try_send(event)` of the consumer. -/
  | forward
  /-- `rx.recv()` of the aggregator. -/
  | aggregate
  /-- A tick: the clock and the answer of the channel to the mapping engine. -/
  | tick (nowUs : UInt64) (mapper : TrySend)
  deriving DecidableEq, Repr

namespace Ingest

section Steps

variable {ι F : Type}

/-- The tasks as `main` starts them. -/
def started [Float64 F] (kinds : ι → ProbeKind) (windowMs : UInt64) : Ingest ι F where
  probes i := .spawned (kinds i)
  shutdown := false
  cumulativeLostEvents := 0
  rawEvents := .empty eventCapacity RawEvent
  consumer := .receiving
  aggEvents := .empty eventCapacity RawEvent
  aggregator := .new windowMs
  aggregating := true

/-- The consumer receives. -/
def receive (ingest : Ingest ι F) : Option (Ingest ι F) :=
  match ingest.rawEvents.recv with
  | .item event rest =>
      match ingest.consumer.received (some event) with
      | some (consumer, _) => some { ingest with rawEvents := rest, consumer := consumer }
      | none => none
  | .ended =>
      match ingest.consumer.received none with
      | some (consumer, _) =>
          some { ingest with
            rawEvents := ingest.rawEvents.dropReceiver
            consumer := consumer
            aggEvents := ingest.aggEvents.dropSenders }
      | none => none
  | .pending => none

/-- The consumer forwards. -/
def forward (ingest : Ingest ι F) : Option (Ingest ι F) :=
  match ingest.consumer with
  | .forwarding event =>
      match ingest.aggEvents.trySend event with
      | (.closed, after) =>
          some { ingest with
            rawEvents := ingest.rawEvents.dropReceiver
            consumer := .stopped
            aggEvents := after.dropSenders }
      | (answer, after) =>
          match ingest.consumer.forwarded answer with
          | some consumer => some { ingest with consumer := consumer, aggEvents := after }
          | none => none
  | _ => none

/-- The aggregator receives. -/
def aggregate (ingest : Ingest ι F) : Option (Ingest ι F) :=
  if ingest.aggregating then
    match ingest.aggEvents.recv with
    | .item event rest =>
        some { ingest with aggEvents := rest, aggregator := ingest.aggregator.push event }
    | .ended =>
        some { ingest with
          aggEvents := ingest.aggEvents.dropReceiver, aggregating := false }
    | .pending => none
  else none

/-- One probe task moves on. -/
def setProbe [DecidableEq ι] (ingest : Ingest ι F) (probe : ι) (task : ProbeTask) : Ingest ι F :=
  { ingest with probes := Function.update ingest.probes probe task }

/-- A probe offers its event. -/
def send [DecidableEq ι] (ingest : Ingest ι F) (probe : ι) : Option (Ingest ι F) :=
  match (ingest.probes probe).offered with
  | some event =>
      match ingest.rawEvents.trySend event with
      | (answer, after) =>
          some { ingest.setProbe probe ((ingest.probes probe).sent event answer) with
            rawEvents := after }
  | none => none

variable [Float64 F]

/-- The aggregator ticks: the loss counter is swapped for zero, and the loop is left
when the mapping engine is gone. -/
def tick (ingest : Ingest ι F) (nowUs : UInt64) (mapper : TrySend) :
    Option (Ingest ι F) :=
  if ingest.aggregating then
    match ingest.aggregator.tick nowUs ingest.cumulativeLostEvents, mapper with
    | none, _ => none
    | some _, .closed =>
        some { ingest with
          cumulativeLostEvents := 0
          aggEvents := ingest.aggEvents.dropReceiver
          aggregating := false }
    | some (next, _), _ =>
        some { ingest with cumulativeLostEvents := 0, aggregator := next }
  else none

/-- One step of one task. -/
def step [DecidableEq ι] (ingest : Ingest ι F) : IngestLabel ι → Option (Ingest ι F)
  | .generate probe event =>
      ((ingest.probes probe).generate event).map (ingest.setProbe probe)
  | .send probe => ingest.send probe
  | .account probe =>
      ((ingest.probes probe).account ingest.cumulativeLostEvents).map fun (task, lost) =>
        { ingest.setProbe probe task with cumulativeLostEvents := lost }
  | .leave probe =>
      ((ingest.probes probe).leave ingest.shutdown).map (ingest.setProbe probe)
  | .shutdown => some { ingest with shutdown := true }
  | .receive => ingest.receive
  | .forward => ingest.forward
  | .aggregate => ingest.aggregate
  | .tick nowUs mapper => ingest.tick nowUs mapper

end Steps

/-! ## What an operation can do -/

section Cases

variable {ι F : Type} {ingest next : Ingest ι F}

/-- The consumer takes an event in hand, or stops at the end of the raw channel. -/
theorem receive_cases (h : ingest.receive = some next) :
    ingest.consumer = .receiving ∧
      ((∃ event rest, ingest.rawEvents.recv = .item event rest ∧
          next = { ingest with rawEvents := rest, consumer := .forwarding event }) ∨
        (ingest.rawEvents.recv = .ended ∧
          next = { ingest with
            rawEvents := ingest.rawEvents.dropReceiver
            consumer := .stopped
            aggEvents := ingest.aggEvents.dropSenders })) := by
  unfold receive at h
  cases hconsumer : ingest.consumer with
  | receiving =>
      cases hrecv : ingest.rawEvents.recv with
      | item event rest =>
          simp only [hrecv, hconsumer, RingbufConsumer.received, Option.some.injEq] at h
          exact ⟨rfl, .inl ⟨event, rest, rfl, h.symm⟩⟩
      | ended =>
          simp only [hrecv, hconsumer, RingbufConsumer.received, Option.some.injEq] at h
          exact ⟨rfl, .inr ⟨rfl, h.symm⟩⟩
      | pending => simp [hrecv] at h
  | _ =>
      cases hrecv : ingest.rawEvents.recv <;>
        simp [hrecv, hconsumer, RingbufConsumer.received] at h

/-- The consumer offers the event in its hands, and stops when the aggregator is gone. -/
theorem forward_cases (h : ingest.forward = some next) :
    ∃ event answer after, ingest.consumer = .forwarding event ∧
      ingest.aggEvents.trySend event = (answer, after) ∧
      ((answer ≠ .closed ∧
          next = { ingest with consumer := .receiving, aggEvents := after }) ∨
        (answer = .closed ∧
          next = { ingest with
            rawEvents := ingest.rawEvents.dropReceiver
            consumer := .stopped
            aggEvents := after.dropSenders })) := by
  unfold forward at h
  cases hconsumer : ingest.consumer with
  | forwarding event =>
      rcases hsend : ingest.aggEvents.trySend event with ⟨answer, after⟩
      refine ⟨event, answer, after, rfl, hsend, ?_⟩
      simp only [hconsumer, hsend] at h
      cases answer with
      | closed => exact .inr ⟨rfl, (Option.some.inj h).symm⟩
      | ok => exact .inl ⟨by simp, (Option.some.inj h).symm⟩
      | full => exact .inl ⟨by simp, (Option.some.inj h).symm⟩
  | _ => simp [hconsumer] at h

/-- The loop of the aggregator takes an event into the window, or is left at the end of the
channel. -/
theorem aggregate_cases (h : ingest.aggregate = some next) :
    ingest.aggregating = true ∧
      ((∃ event rest, ingest.aggEvents.recv = .item event rest ∧
          next = { ingest with
            aggEvents := rest, aggregator := ingest.aggregator.push event }) ∨
        (ingest.aggEvents.recv = .ended ∧
          next = { ingest with
            aggEvents := ingest.aggEvents.dropReceiver, aggregating := false })) := by
  unfold aggregate at h
  split at h
  · rename_i hrunning
    refine ⟨hrunning, ?_⟩
    cases hrecv : ingest.aggEvents.recv with
    | item event rest =>
        simp only [hrecv, Option.some.injEq] at h
        exact .inl ⟨event, rest, rfl, h.symm⟩
    | ended =>
        simp only [hrecv, Option.some.injEq] at h
        exact .inr ⟨rfl, h.symm⟩
    | pending => simp [hrecv] at h
  · cases h

theorem send_cases [DecidableEq ι] {probe : ι} (h : ingest.send probe = some next) :
    ∃ event answer after, (ingest.probes probe).offered = some event ∧
      ingest.rawEvents.trySend event = (answer, after) ∧
      next =
        { ingest.setProbe probe ((ingest.probes probe).sent event answer) with
          rawEvents := after } := by
  unfold send at h
  cases hoffered : (ingest.probes probe).offered with
  | none => simp [hoffered] at h
  | some event =>
      rcases hsend : ingest.rawEvents.trySend event with ⟨answer, after⟩
      simp only [hoffered, hsend, Option.some.injEq] at h
      exact ⟨event, answer, after, rfl, hsend, h.symm⟩

/-- A tick reports the lost events and resets their counter; the loop goes on unless the
mapping engine is gone. -/
theorem tick_cases [Float64 F] {nowUs : UInt64} {mapper : TrySend}
    (h : ingest.tick nowUs mapper = some next) :
    ingest.aggregating = true ∧
      ((mapper = .closed ∧
          next = { ingest with
            cumulativeLostEvents := 0
            aggEvents := ingest.aggEvents.dropReceiver
            aggregating := false }) ∨
        (mapper ≠ .closed ∧
          next = { ingest with
            cumulativeLostEvents := 0, aggregator := ingest.aggregator.advance })) := by
  obtain ⟨metrics, _, htick⟩ := ingest.aggregator.tick_eq nowUs ingest.cumulativeLostEvents
  unfold tick at h
  split at h
  · rename_i hrunning
    refine ⟨hrunning, ?_⟩
    rw [htick] at h
    cases mapper with
    | closed => exact .inl ⟨rfl, (Option.some.inj h).symm⟩
    | ok => exact .inr ⟨by simp, (Option.some.inj h).symm⟩
    | full => exact .inr ⟨by simp, (Option.some.inj h).symm⟩
  · cases h

end Cases

/-! ## Bookkeeping -/

section Books

variable {ι F : Type}

/-- Neither channel has lost its receiver. -/
def Open (ingest : Ingest ι F) : Prop :=
  ingest.rawEvents.receiverGone = false ∧ ingest.aggEvents.receiverGone = false

/-- No task is between two operations. -/
def Idle (ingest : Ingest ι F) : Prop :=
  (∀ i, (ingest.probes i).Idle) ∧ ingest.consumer.Idle

/-- The events that are in the hands of a task, in a channel, or in the window. -/
def held [Fintype ι] (ingest : Ingest ι F) : Nat :=
  ∑ i, (ingest.probes i).inHand + ingest.rawEvents.queue.length + ingest.consumer.inHand +
    ingest.aggEvents.queue.length + ingest.aggregator.currentWindowEvents.length

/-- An event is generated at the visit. -/
def generated : Ingest ι F × IngestLabel ι → Nat
  | (_, .generate _ _) => 1
  | _ => 0

/-- The events that a tick folds into its snapshot. -/
def folded : Ingest ι F × IngestLabel ι → Nat
  | (ingest, .tick _ _) => ingest.aggregator.currentWindowEvents.length
  | _ => 0

/-- A send of the probe finds the raw channel full. -/
def failedSend [DecidableEq ι] (probe : ι) : Ingest ι F × IngestLabel ι → Nat
  | (ingest, .send sender) =>
      if sender = probe ∧ ingest.rawEvents.IsFull then 1 else 0
  | _ => 0

/-- The consumer finds the channel to the aggregator full. -/
def failedForward : Ingest ι F × IngestLabel ι → Nat
  | (ingest, .forward) => if ingest.aggEvents.IsFull then 1 else 0
  | _ => 0

end Books

end Ingest

end DaemonChoir.Conductor
