import DaemonChoir.Common.Events
import DaemonChoir.Foundation.Sync
set_option autoImplicit false

/-!
# Conductor: the probe tasks (`conductor/src/probe_manager.rs`)

A probe task produces events one after another, offers each to the raw channel and
keeps the books with one atomic operation at a time.  The simulator and the eBPF drain
loop differ in what they do when the channel is closed.
-/

namespace DaemonChoir.Conductor

open DaemonChoir.Common DaemonChoir.Foundation

/-- Which of the two loops a task runs. -/
inductive ProbeKind where
  /-- `run_simulator_probe` -/
  | simulated
  /-- The drain loop spawned by `ProbeManager::start`. -/
  | ebpf
  deriving DecidableEq, Repr, Inhabited

/-- Where a task stands between two operations on shared state. -/
inductive ProbePc where
  /-- Before the next event. -/
  | looping
  /-- Before `tx.try_send(event)`. -/
  | holding (event : RawEvent)
  /-- Before `events_total.fetch_add`. -/
  | accepted (event : RawEvent)
  /-- Before `last_event_us.store`. -/
  | stamping (event : RawEvent)
  /-- Before `events_lost.fetch_add`. -/
  | rejected
  /-- Between `events_lost.fetch_add` and `cumulative_lost.fetch_add`. -/
  | counting
  /-- The loop was left. -/
  | stopped
  deriving DecidableEq, Repr, Inhabited

/-- A probe task and its counters in `ProbeStats`. -/
structure ProbeTask where
  kind : ProbeKind
  pc : ProbePc
  eventsTotal : UInt64
  eventsLost : UInt64
  lastEventUs : UInt64
  deriving DecidableEq, Repr, Inhabited

namespace ProbeTask

/-- A task as it is spawned. -/
def spawned (kind : ProbeKind) : ProbeTask :=
  { kind := kind, pc := .looping, eventsTotal := 0, eventsLost := 0, lastEventUs := 0 }

/-- An event was generated or decoded. -/
def generate (task : ProbeTask) (event : RawEvent) : Option ProbeTask :=
  match task.pc with
  | .looping => some { task with pc := .holding event }
  | _ => none

/-- The event that is about to be sent. -/
def offered (task : ProbeTask) : Option RawEvent :=
  match task.pc with
  | .holding event => some event
  | _ => none

/-- After `try_send` has answered.  The simulator leaves its loop when the channel is
closed; the drain loop counts any failure as a loss. -/
def sent (task : ProbeTask) (event : RawEvent) (answer : TrySend) : ProbeTask :=
  match answer, task.kind with
  | .ok, _ => { task with pc := .accepted event }
  | .full, _ => { task with pc := .rejected }
  | .closed, .simulated => { task with pc := .stopped }
  | .closed, .ebpf => { task with pc := .rejected }

/-- The next operation of the bookkeeping, on the counters of the task and on
`cumulative_lost_events`. -/
def account (task : ProbeTask) (cumulativeLost : UInt64) : Option (ProbeTask × UInt64) :=
  match task.pc with
  | .accepted event =>
      some ({ task with pc := .stamping event, eventsTotal := task.eventsTotal + 1 },
        cumulativeLost)
  | .stamping event =>
      some ({ task with pc := .looping, lastEventUs := event.timestampNs / 1000 },
        cumulativeLost)
  | .rejected =>
      some ({ task with pc := .counting, eventsLost := task.eventsLost + 1 },
        cumulativeLost)
  | .counting => some ({ task with pc := .looping }, cumulativeLost + 1)
  | _ => none

/-- The loop is left at its head: on shutdown, or when the ring buffer of an eBPF probe
is gone. -/
def leave (task : ProbeTask) (shutdown : Bool) : Option ProbeTask :=
  match task.pc with
  | .looping =>
      if shutdown || task.kind == .ebpf then some { task with pc := .stopped } else none
  | _ => none

/-- The task is at the head of its loop or has left it. -/
def Idle (task : ProbeTask) : Prop := task.pc = .looping ∨ task.pc = .stopped

/-- One event is in the hands of the task. -/
def inHand (task : ProbeTask) : Nat := if task.offered.isSome then 1 else 0

/-- One failed send is not yet counted in `events_lost`. -/
def uncounted (task : ProbeTask) : Nat := if task.pc = .rejected then 1 else 0

/-! ## What the operations do to the books -/

theorem generate_cases {task next : ProbeTask} {event : RawEvent}
    (h : task.generate event = some next) :
    next.inHand = task.inHand + 1 ∧ next.uncounted = task.uncounted ∧
      next.eventsLost = task.eventsLost := by
  unfold generate at h
  split at h
  · rename_i hpc
    obtain rfl := Option.some.inj h
    simp [inHand, offered, uncounted, hpc]
  · cases h

theorem sent_cases {task : ProbeTask} {event : RawEvent} (answer : TrySend)
    (h : task.offered = some event) :
    task.inHand = 1 ∧ task.uncounted = 0 ∧ (task.sent event answer).inHand = 0 ∧
      (task.sent event answer).eventsLost = task.eventsLost ∧
      (answer ≠ .closed → (task.sent event answer).uncounted =
        if answer = .full then 1 else 0) := by
  have hpc : task.pc = .holding event := by
    unfold offered at h
    split at h
    · rename_i hpc
      obtain rfl := Option.some.inj h
      exact hpc
    · cases h
  refine ⟨by simp [inHand, h], by simp [uncounted, hpc], ?_⟩
  cases answer with
  | ok => simp [sent, inHand, offered, uncounted]
  | full => simp [sent, inHand, offered, uncounted]
  | closed => cases hkind : task.kind <;> simp [sent, inHand, offered, hkind]

theorem account_cases {task next : ProbeTask} {cumulativeLost after : UInt64}
    (h : task.account cumulativeLost = some (next, after)) :
    task.inHand = 0 ∧ next.inHand = 0 ∧ next.uncounted = 0 ∧
      next.eventsLost = task.eventsLost + UInt64.ofNat task.uncounted := by
  unfold account at h
  split at h
  · rename_i hpc
    obtain ⟨rfl, _⟩ := Prod.mk.inj (Option.some.inj h)
    simp [inHand, offered, uncounted, hpc]
  · rename_i hpc
    obtain ⟨rfl, _⟩ := Prod.mk.inj (Option.some.inj h)
    simp [inHand, offered, uncounted, hpc]
  · rename_i hpc
    obtain ⟨rfl, _⟩ := Prod.mk.inj (Option.some.inj h)
    simp [inHand, offered, uncounted, hpc]
  · rename_i hpc
    obtain ⟨rfl, _⟩ := Prod.mk.inj (Option.some.inj h)
    simp [inHand, offered, uncounted, hpc]
  · cases h

theorem leave_cases {task next : ProbeTask} {shutdown : Bool}
    (h : task.leave shutdown = some next) :
    next.inHand = task.inHand ∧ next.uncounted = task.uncounted ∧
      next.eventsLost = task.eventsLost := by
  unfold leave at h
  split at h
  · rename_i hpc
    split at h
    · obtain rfl := Option.some.inj h
      simp [inHand, offered, uncounted, hpc]
    · cases h
  · cases h

/-! ## What the operations do to the event in hand -/

theorem offered_generate {task next : ProbeTask} {event : RawEvent}
    (h : task.generate event = some next) : task.offered = none ∧ next.offered = some event := by
  unfold generate at h
  split at h
  · rename_i hpc
    obtain rfl := Option.some.inj h
    simp [offered, hpc]
  · cases h

theorem offered_sent (task : ProbeTask) (event : RawEvent) (answer : TrySend) :
    (task.sent event answer).offered = none := by
  cases answer with
  | ok => rfl
  | full => rfl
  | closed => cases hkind : task.kind <;> simp [sent, offered, hkind]

theorem offered_account {task next : ProbeTask} {cumulativeLost after : UInt64}
    (h : task.account cumulativeLost = some (next, after)) :
    task.offered = none ∧ next.offered = none := by
  unfold account at h
  split at h
  · rename_i hpc
    cases h
    simp [offered, hpc]
  · rename_i hpc
    cases h
    simp [offered, hpc]
  · rename_i hpc
    cases h
    simp [offered, hpc]
  · rename_i hpc
    cases h
    simp [offered, hpc]
  · cases h

theorem offered_leave {task next : ProbeTask} {shutdown : Bool}
    (h : task.leave shutdown = some next) : task.offered = none ∧ next.offered = none := by
  unfold leave at h
  split at h
  · rename_i hpc
    split at h
    · obtain rfl := Option.some.inj h
      simp [offered, hpc]
    · cases h
  · cases h

theorem Idle.inHand {task : ProbeTask} (h : task.Idle) : task.inHand = 0 := by
  rcases h with h | h <;> simp [ProbeTask.inHand, offered, h]

theorem Idle.uncounted {task : ProbeTask} (h : task.Idle) : task.uncounted = 0 := by
  rcases h with h | h <;> simp [ProbeTask.uncounted, h]

end ProbeTask

end DaemonChoir.Conductor
