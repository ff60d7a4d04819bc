import DaemonChoir.Common.Events
import DaemonChoir.Foundation.Sync
set_option autoImplicit false

/-!
# Conductor: the ring-buffer consumer (`conductor/src/ringbuf.rs`)

One loop: receive an event, spawn its insertion, offer it to the aggregator.
-/

namespace DaemonChoir.Conductor

open DaemonChoir.Common DaemonChoir.Foundation

/-- Where `RingbufConsumer::run` stands. -/
inductive RingbufConsumer where
  /-- Before `rx.recv()`. -/
  | receiving
  /-- The insertion is spawned; before `aggregator_tx.try_send(event)`. -/
  | forwarding (event : RawEvent)
  /-- The loop was left. -/
  | stopped
  deriving DecidableEq, Repr, Inhabited

namespace RingbufConsumer

/-- After `rx.recv()` has answered, with the event whose insertion is spawned. -/
def received (consumer : RingbufConsumer) (maybeEvent : Option RawEvent) :
    Option (RingbufConsumer × Option RawEvent) :=
  match consumer, maybeEvent with
  | .receiving, some event => some (.forwarding event, some event)
  | .receiving, none => some (.stopped, none)
  | _, _ => none

/-- After `try_send` has answered.  A full queue drops the event with a warning. -/
def forwarded (consumer : RingbufConsumer) (answer : TrySend) : Option RingbufConsumer :=
  match consumer, answer with
  | .forwarding _, .ok => some .receiving
  | .forwarding _, .full => some .receiving
  | .forwarding _, .closed => some .stopped
  | _, _ => none

/-- The event in the hands of the task. -/
def forwarding? : RingbufConsumer → Option RawEvent
  | .forwarding event => some event
  | _ => none

/-- One event is in the hands of the task. -/
def inHand : RingbufConsumer → Nat
  | .forwarding _ => 1
  | _ => 0

/-- The task is at the head of its loop or has left it. -/
def Idle (consumer : RingbufConsumer) : Prop :=
  consumer = .receiving ∨ consumer = .stopped

theorem Idle.inHand {consumer : RingbufConsumer} (h : consumer.Idle) :
    consumer.inHand = 0 := by
  rcases h with rfl | rfl <;> rfl

end RingbufConsumer

end DaemonChoir.Conductor
