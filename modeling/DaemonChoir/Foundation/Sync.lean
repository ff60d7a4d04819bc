set_option autoImplicit false

/-!
# Foundation: what tasks share

A bounded multi-producer, single-consumer FIFO queue whose send never waits: it
answers at once that the item was taken, that the queue is full, or that nobody
will ever receive it.  The bound is a field, so a state that holds more items
than the capacity cannot be written down.  Beside it, a cell behind a lock that
can be poisoned.
-/

namespace DaemonChoir.Foundation

universe u

/-- The answer of a send that does not wait. -/
inductive TrySend where
  | ok
  | full
  | closed
  deriving DecidableEq, Repr, Inhabited

/-- A queue of at most `capacity` items, oldest first. -/
structure Channel (capacity : Nat) (α : Type u) where
  /-- Items sent and not yet received. -/
  queue : List α
  /-- The receiver was dropped. -/
  receiverGone : Bool
  /-- Every sender was dropped. -/
  sendersGone : Bool
  /-- A send into a full queue is refused. -/
  length_le : queue.length ≤ capacity

/-- The answer of a receive: an item, the end of the stream, or nothing yet. -/
inductive Received (capacity : Nat) (α : Type u) where
  | item (value : α) (rest : Channel capacity α)
  | ended
  | pending

namespace Channel

variable {capacity : Nat} {α : Type u}

/-- An open queue without items. -/
def empty (capacity : Nat) (α : Type u) : Channel capacity α :=
  { queue := [], receiverGone := false, sendersGone := false
    length_le := Nat.zero_le _ }

@[simp] theorem empty_queue : (empty capacity α).queue = [] := rfl

@[simp] theorem empty_receiverGone : (empty capacity α).receiverGone = false := rfl

/-- Every place of the queue is taken. -/
def IsFull (channel : Channel capacity α) : Prop :=
  channel.queue.length = capacity

instance (channel : Channel capacity α) : Decidable channel.IsFull :=
  inferInstanceAs (Decidable (_ = _))

theorem not_isFull_of_lt {channel : Channel capacity α}
    (hroom : channel.queue.length < capacity) : ¬ channel.IsFull := by
  unfold IsFull
  omega

/-- A send is not taken. -/
def Refuses (channel : Channel capacity α) : Prop :=
  channel.receiverGone = true ∨ channel.IsFull

instance (channel : Channel capacity α) : Decidable channel.Refuses :=
  inferInstanceAs (Decidable (_ ∨ _))

/-- Send without waiting.  A dropped receiver is reported before a full queue. -/
def trySend (channel : Channel capacity α) (value : α) :
    TrySend × Channel capacity α :=
  if channel.receiverGone then (.closed, channel)
  else if hroom : channel.queue.length < capacity then
    (.ok, { channel with
      queue := channel.queue ++ [value]
      length_le := by
        rw [List.length_append, List.length_singleton]
        exact hroom })
  else (.full, channel)

/-- Receive the oldest item. -/
def recv (channel : Channel capacity α) : Received capacity α :=
  match hqueue : channel.queue with
  | value :: rest =>
      .item value { channel with
        queue := rest
        length_le := by
          have hlength := channel.length_le
          rw [hqueue, List.length_cons] at hlength
          omega }
  | [] => if channel.sendersGone then .ended else .pending

/-- Drop the receiver. -/
def dropReceiver (channel : Channel capacity α) : Channel capacity α :=
  { channel with receiverGone := true }

/-- Drop the last sender. -/
def dropSenders (channel : Channel capacity α) : Channel capacity α :=
  { channel with sendersGone := true }

@[simp] theorem dropReceiver_receiverGone (channel : Channel capacity α) :
    channel.dropReceiver.receiverGone = true := rfl

@[simp] theorem dropReceiver_queue (channel : Channel capacity α) :
    channel.dropReceiver.queue = channel.queue := rfl

@[simp] theorem dropSenders_receiverGone (channel : Channel capacity α) :
    channel.dropSenders.receiverGone = channel.receiverGone := rfl

@[simp] theorem dropSenders_queue (channel : Channel capacity α) :
    channel.dropSenders.queue = channel.queue := rfl

@[simp] theorem dropReceiver_sendersGone (channel : Channel capacity α) :
    channel.dropReceiver.sendersGone = channel.sendersGone := rfl

@[simp] theorem dropSenders_sendersGone (channel : Channel capacity α) :
    channel.dropSenders.sendersGone = true := rfl

@[simp] theorem empty_sendersGone : (empty capacity α).sendersGone = false := rfl

/-- All a send can do: append the item to a queue with room, or leave the queue
alone because it is full, or because the receiver is gone. -/
theorem trySend_cases {channel after : Channel capacity α} {value : α}
    {answer : TrySend} (h : channel.trySend value = (answer, after)) :
    (answer = .ok ∧ channel.receiverGone = false ∧
      channel.queue.length < capacity ∧
      after.queue = channel.queue ++ [value] ∧
      after.receiverGone = false ∧ after.sendersGone = channel.sendersGone) ∨
    (answer = .full ∧ channel.receiverGone = false ∧ channel.IsFull ∧
      after = channel) ∨
    (answer = .closed ∧ channel.receiverGone = true ∧ after = channel) := by
  unfold trySend at h
  split at h
  · rename_i hgone
    cases h
    exact .inr (.inr ⟨rfl, hgone, rfl⟩)
  · rename_i hopen
    split at h
    · rename_i hroom
      cases h
      exact .inl ⟨rfl, by simpa using hopen, hroom, rfl, by simpa using hopen, rfl⟩
    · rename_i hroom
      cases h
      have hfull : channel.IsFull := by
        have hlength := channel.length_le
        unfold IsFull
        omega
      exact .inr (.inl ⟨rfl, by simpa using hopen, hfull, rfl⟩)

/-- What a send appends to the queue. -/
theorem trySend_queue {channel after : Channel capacity α} {value : α} {answer : TrySend}
    (h : channel.trySend value = (answer, after)) :
    after.queue = channel.queue ++ if channel.Refuses then [] else [value] := by
  have hlength := channel.length_le
  rcases trySend_cases h with ⟨_, hopen, hroom, hafter, _⟩ | ⟨_, _, hfull, rfl⟩ | ⟨_, hgone, rfl⟩
  · have htaken : ¬ channel.Refuses := by
      unfold Refuses
      rw [hopen]
      simpa using not_isFull_of_lt hroom
    rw [if_neg htaken, hafter]
  · rw [if_pos (.inr hfull), List.append_nil]
  · rw [if_pos (.inl hgone), List.append_nil]

/-- A send makes the queue longer by one item at most. -/
theorem trySend_length_le {channel after : Channel capacity α} {value : α} {answer : TrySend}
    (h : channel.trySend value = (answer, after)) :
    after.queue.length ≤ channel.queue.length + 1 := by
  rcases trySend_cases h with ⟨_, _, _, hafter, _⟩ | ⟨_, _, _, rfl⟩ | ⟨_, _, rfl⟩
  · have hlength : after.queue.length = channel.queue.length + 1 := by
      rw [hafter, List.length_append, List.length_singleton]
    exact Nat.le_of_eq hlength
  · exact Nat.le_succ _
  · exact Nat.le_succ _

/-- A send drops neither end. -/
theorem trySend_ends {channel after : Channel capacity α} {value : α} {answer : TrySend}
    (h : channel.trySend value = (answer, after)) :
    after.receiverGone = channel.receiverGone ∧ after.sendersGone = channel.sendersGone := by
  rcases trySend_cases h with ⟨_, hopen, _, _, hgone, hsenders⟩ | ⟨_, _, _, rfl⟩ | ⟨_, _, rfl⟩
  · exact ⟨hgone.trans hopen.symm, hsenders⟩
  · exact ⟨rfl, rfl⟩
  · exact ⟨rfl, rfl⟩

/-- A send finds the channel closed exactly when the receiver was dropped. -/
theorem trySend_closed_iff {channel after : Channel capacity α} {value : α} {answer : TrySend}
    (h : channel.trySend value = (answer, after)) :
    answer = .closed ↔ channel.receiverGone = true := by
  rcases trySend_cases h with ⟨rfl, hopen, _⟩ | ⟨rfl, hopen, _⟩ | ⟨rfl, hgone, _⟩
  · simp [hopen]
  · simp [hopen]
  · simp [hgone]

/-- While the receiver is there, a send does not find the channel closed. -/
theorem trySend_ne_closed {channel : Channel capacity α} {value : α}
    (hopen : channel.receiverGone = false) : (channel.trySend value).1 ≠ .closed := by
  intro hclosed
  rcases hsend : channel.trySend value with ⟨answer, after⟩
  rw [hsend] at hclosed
  rcases trySend_cases hsend with ⟨rfl, _⟩ | ⟨rfl, _⟩ | ⟨_, hgone, _⟩
  · cases hclosed
  · cases hclosed
  · rw [hopen] at hgone
    cases hgone

/-- While the receiver is there, a send answers `full` exactly on a full queue. -/
theorem trySend_full_iff {channel : Channel capacity α} {value : α}
    (hopen : channel.receiverGone = false) :
    (channel.trySend value).1 = .full ↔ channel.IsFull := by
  have hlength := channel.length_le
  unfold trySend IsFull
  rw [hopen]
  by_cases hroom : channel.queue.length < capacity
  · simp only [Bool.false_eq_true, if_false, hroom, dite_true, reduceCtorEq, false_iff]
    omega
  · simp only [Bool.false_eq_true, if_false, hroom, dite_false, true_iff]
    omega

/-- What a receive of an item does to the queue. -/
theorem recv_item {channel rest : Channel capacity α} {value : α}
    (h : channel.recv = .item value rest) :
    channel.queue = value :: rest.queue ∧
      rest.receiverGone = channel.receiverGone ∧
      rest.sendersGone = channel.sendersGone := by
  unfold recv at h
  split at h
  · rename_i head tail hqueue
    cases h
    exact ⟨hqueue, rfl, rfl⟩
  · split at h <;> cases h

/-- The stream ends on an empty queue only. -/
theorem recv_ended {channel : Channel capacity α} (h : channel.recv = .ended) :
    channel.queue = [] := by
  unfold recv at h
  split at h
  · cases h
  · rename_i hqueue
    exact hqueue

/-- The stream has ended exactly when the queue is empty and every sender gone. -/
theorem recv_ended_iff {channel : Channel capacity α} :
    channel.recv = .ended ↔ channel.queue = [] ∧ channel.sendersGone = true := by
  unfold recv
  split
  · rename_i head rest hqueue
    simp [hqueue]
  · rename_i hqueue
    cases hsenders : channel.sendersGone <;> simp [hqueue]

/-- There is nothing yet exactly when the queue is empty and a sender is left. -/
theorem recv_pending_iff {channel : Channel capacity α} :
    channel.recv = .pending ↔ channel.queue = [] ∧ channel.sendersGone = false := by
  unfold recv
  split
  · rename_i head rest hqueue
    simp [hqueue]
  · rename_i hqueue
    cases hsenders : channel.sendersGone <;> simp [hqueue]

/-- Something can be received exactly when the queue is not empty. -/
theorem recv_of_queue_eq_cons {channel : Channel capacity α} {value : α}
    {tail : List α} (hqueue : channel.queue = value :: tail) :
    ∃ rest, channel.recv = .item value rest := by
  unfold recv
  split
  · rename_i head rest hqueue'
    rw [hqueue] at hqueue'
    cases hqueue'
    exact ⟨_, rfl⟩
  · rename_i hempty
    rw [hqueue] at hempty
    cases hempty

end Channel

/-! ## Locks -/

/-- A cell behind a lock.  Once poisoned, neither reading nor writing succeeds. -/
structure RwLock (α : Type u) where
  value : α
  poisoned : Bool
  deriving DecidableEq, Repr, Inhabited

namespace RwLock

variable {α : Type u}

/-- A fresh lock. -/
def new (value : α) : RwLock α := { value := value, poisoned := false }

/-- Read, unless the lock is poisoned. -/
def read (lock : RwLock α) : Option α :=
  if lock.poisoned then none else some lock.value

/-- Update the cell, unless the lock is poisoned. -/
def write (lock : RwLock α) (update : α → α) : RwLock α :=
  if lock.poisoned then lock else { lock with value := update lock.value }

@[simp] theorem new_value (value : α) : (new value).value = value := rfl

@[simp] theorem new_poisoned (value : α) : (new value).poisoned = false := rfl

@[simp] theorem write_poisoned (lock : RwLock α) (update : α → α) :
    (lock.write update).poisoned = lock.poisoned := by
  unfold write
  split <;> rfl

theorem write_value {lock : RwLock α} (h : lock.poisoned = false) (update : α → α) :
    (lock.write update).value = update lock.value := by
  simp [write, h]

/-- After a write the cell holds the new value, unless the lock is poisoned and the cell
held another one. -/
theorem write_const_eq_iff (lock : RwLock α) (value : α) :
    (lock.write fun _ => value).value = value ↔
      (lock.poisoned = true → lock.value = value) := by
  cases hpoisoned : lock.poisoned with
  | true => simp [write, hpoisoned]
  | false => simp [write, hpoisoned]

theorem read_eq_some {lock : RwLock α} (h : lock.poisoned = false) :
    lock.read = some lock.value := by
  simp [read, h]

/-- Two healthy locks are equal when their cells are. -/
theorem eq_of_value {left right : RwLock α} (hleft : left.poisoned = false)
    (hright : right.poisoned = false) (h : left.value = right.value) : left = right := by
  cases left
  cases right
  simp_all

end RwLock

end DaemonChoir.Foundation
