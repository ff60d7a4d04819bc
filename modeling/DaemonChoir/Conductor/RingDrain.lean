import DaemonChoir.Common.BpfEvents
import DaemonChoir.Common.Time
import DaemonChoir.Conductor.ProbeManager
import Mathlib.Data.List.Induction
set_option autoImplicit false

/-!
# Conductor: the drain loop (`conductor/src/probe_manager.rs`)

What the task of an eBPF probe does with the items of its ring buffer, one after another:
read the clock, decode, offer the event, keep the books.  The operations on the counters
are those of every probe task.
-/

namespace DaemonChoir.Conductor

open DaemonChoir.Common DaemonChoir.Foundation

/-! ## Decoding -/

/-- `from_bytes`. -/
def fromBytes {T : Type} (size : Nat) (read : List UInt8 → T) (slice : List UInt8) :
    Option T :=
  if slice.length < size then none else some (read slice)

/-- `payload`; `none` is the `continue` of the loop. -/
def decodePayload (probeId : ProbeId) (item : List UInt8) : Option EventPayload :=
  match probeId with
  | .cpuSched =>
      match fromBytes probeId.recordSize CpuSchedBpfEvent.read item with
      | some bpfEvent =>
          some (.cpuSched
            { prevCommHash := bpfEvent.prevCommHash
              nextCommHash := bpfEvent.nextCommHash
              latencyNs := bpfEvent.latencyNs
              cpuId := bpfEvent.cpuId })
      | none => none
  | .memPressure =>
      match fromBytes probeId.recordSize MemPressureBpfEvent.read item with
      | some bpfEvent =>
          some (.memPressure
            { pagesReclaimed := bpfEvent.pagesReclaimed
              zone := bpfEvent.zone })
      | none => none
  | .netIo =>
      match fromBytes probeId.recordSize NetIoBpfEvent.read item with
      | some bpfEvent =>
          some (.netIo
            { bytesTx := bpfEvent.bytesTx
              bytesRx := bpfEvent.bytesRx
              devNameHash := bpfEvent.devNameHash })
      | none => none
  | .procLifecycle =>
      match fromBytes probeId.recordSize ProcLifecycleBpfEvent.read item with
      | some bpfEvent =>
          some (.procLifecycle
            { commHash := bpfEvent.commHash
              uidHash := bpfEvent.uidHash })
      | none => none

theorem decodePayload_eq_none_iff (probeId : ProbeId) (item : List UInt8) :
    decodePayload probeId item = none ↔ item.length < probeId.recordSize := by
  unfold decodePayload fromBytes
  by_cases hshort : item.length < probeId.recordSize
  · cases probeId <;> simp [hshort]
  · cases probeId <;> simp [hshort]

theorem fromBytes_of_le {T : Type} {size : Nat} {slice : List UInt8}
    (h : size ≤ slice.length) (read : List UInt8 → T) :
    fromBytes size read slice = some (read slice) :=
  if_neg (not_lt.mpr h)

/-- What begins with an image decodes to the fields of its structure. -/
theorem decodePayload_image {record : BpfRecord} {image : List UInt8}
    (h : record.IsImage image) (trailing : List UInt8) :
    decodePayload record.probe (image ++ trailing) = some record.payload := by
  obtain ⟨padding, himage, hlength⟩ := h
  have hlong : record.probe.recordSize ≤ (image ++ trailing).length := by
    rw [List.length_append]
    omega
  rw [himage, List.append_assoc] at hlong ⊢
  cases record with
  | cpuSched e =>
      rw [BpfRecord.probe] at hlong ⊢
      simp only [decodePayload, fromBytes_of_le hlong, BpfRecord.read_cpuSched]
      rfl
  | memPressure e =>
      rw [BpfRecord.probe] at hlong ⊢
      simp only [decodePayload, fromBytes_of_le hlong, BpfRecord.read_memPressure]
      rfl
  | netIo e =>
      rw [BpfRecord.probe] at hlong ⊢
      simp only [decodePayload, fromBytes_of_le hlong, BpfRecord.read_netIo]
      rfl
  | procLifecycle e =>
      rw [BpfRecord.probe] at hlong ⊢
      simp only [decodePayload, fromBytes_of_le hlong, BpfRecord.read_procLifecycle]
      rfl

/-! ## The loop -/

/-- One turn of the loop as the outside sees it. -/
structure RingVisit where
  /-- What the ring buffer returned. -/
  item : List UInt8
  /-- `SystemTime::now()` -/
  now : SystemTime
  /-- What `tx.try_send(event)` answers, if it comes to that. -/
  answer : TrySend
  deriving DecidableEq, Repr, Inhabited

/-- The task of an eBPF probe in its drain loop. -/
structure RingDrain where
  task : ProbeTask
  cumulativeLost : UInt64
  /-- The events offered to the channel so far. -/
  attempts : List RawEvent
  deriving DecidableEq, Repr, Inhabited

/-- The event that an item leads to. -/
def RingVisit.attempt (visit : RingVisit) (probeId : ProbeId) : Option RawEvent :=
  match decodePayload probeId visit.item with
  | none => none
  | some payload =>
      some
        { probe := probeId
          timestampNs := UInt64.ofNat visit.now.sinceEpoch.nanos
          payload := payload }

theorem RingVisit.probe_of_attempt {visit : RingVisit} {probeId : ProbeId} {event : RawEvent}
    (h : visit.attempt probeId = some event) : event.probe = probeId := by
  unfold RingVisit.attempt at h
  split at h
  · cases h
  · cases h
    rfl

theorem RingVisit.payload_attempt (visit : RingVisit) (probeId : ProbeId) :
    (visit.attempt probeId).map RawEvent.payload = decodePayload probeId visit.item := by
  unfold RingVisit.attempt
  cases decodePayload probeId visit.item <;> rfl

namespace RingDrain

/-- `try_send` and the operations on the counters after it. -/
def offer (drain : RingDrain) (event : RawEvent) (answer : TrySend) : Option RingDrain := do
  let task ← drain.task.generate event
  let (task, cumulativeLost) ← (task.sent event answer).account drain.cumulativeLost
  let (task, cumulativeLost) ← task.account cumulativeLost
  return { task, cumulativeLost, attempts := drain.attempts ++ [event] }

/-- One turn of the loop; a clock before 1970 makes `unwrap` panic. -/
def turn (probeId : ProbeId) (drain : RingDrain) (visit : RingVisit) : Option RingDrain :=
  if visit.now.nanos < 0 then none
  else
    match visit.attempt probeId with
    | none => some drain
    | some event => drain.offer event visit.answer

/-- The loop over the items that the ring buffer holds. -/
def run (probeId : ProbeId) (drain : RingDrain) : List RingVisit → Option RingDrain
  | [] => some drain
  | visit :: rest =>
      match drain.turn probeId visit with
      | none => none
      | some next => next.run probeId rest

/-- At the head of the loop. -/
structure Ready (drain : RingDrain) : Prop where
  kind : drain.task.kind = .ebpf
  pc : drain.task.pc = .looping

/-- What one item does to the books: nothing, or one event is offered and counted once,
as accepted or as lost. -/
def Counts (before after : RingDrain) (attempt : Option RawEvent) (answer : TrySend) : Prop :=
  match attempt with
  | none => after = before
  | some event =>
      after.attempts = before.attempts ++ [event] ∧
        if answer = .ok then
          after.task.eventsTotal = before.task.eventsTotal + 1 ∧
            after.task.eventsLost = before.task.eventsLost
        else
          after.task.eventsTotal = before.task.eventsTotal ∧
            after.task.eventsLost = before.task.eventsLost + 1

/-! ## What the loop does -/

/-- The state after an event was offered and counted. -/
def settled (drain : RingDrain) (event : RawEvent) (answer : TrySend) : RingDrain :=
  if answer = .ok then
    { task :=
        { drain.task with
          eventsTotal := drain.task.eventsTotal + 1
          lastEventUs := event.timestampNs / 1000 }
      cumulativeLost := drain.cumulativeLost
      attempts := drain.attempts ++ [event] }
  else
    { task := { drain.task with eventsLost := drain.task.eventsLost + 1 }
      cumulativeLost := drain.cumulativeLost + 1
      attempts := drain.attempts ++ [event] }

/-- Unlike the simulator, the drain loop counts a closed channel as a loss and goes on. -/
theorem Ready.offer_eq {drain : RingDrain} (ready : drain.Ready) (event : RawEvent)
    (answer : TrySend) : drain.offer event answer = some (drain.settled event answer) := by
  obtain ⟨hkind, hpc⟩ := ready
  obtain ⟨⟨kind, pc, eventsTotal, eventsLost, lastEventUs⟩, cumulativeLost, attempts⟩ := drain
  subst hkind hpc
  cases answer <;> rfl

theorem Ready.settled {drain : RingDrain} (ready : drain.Ready) (event : RawEvent)
    (answer : TrySend) : (drain.settled event answer).Ready := by
  unfold RingDrain.settled
  split
  · exact ⟨ready.kind, ready.pc⟩
  · exact ⟨ready.kind, ready.pc⟩

theorem counts_settled (drain : RingDrain) (event : RawEvent) (answer : TrySend) :
    Counts drain (drain.settled event answer) (some event) answer := by
  unfold Counts RingDrain.settled
  by_cases hok : answer = .ok
  · simp only [if_pos hok, and_self]
  · simp only [if_neg hok, and_self]

theorem Ready.turn {drain : RingDrain} (ready : drain.Ready) (probeId : ProbeId)
    {visit : RingVisit} (hclock : 0 ≤ visit.now.nanos) :
    ∃ after, drain.turn probeId visit = some after ∧ after.Ready ∧
      Counts drain after (visit.attempt probeId) visit.answer := by
  unfold RingDrain.turn
  rw [if_neg (not_lt.mpr hclock)]
  cases hattempt : visit.attempt probeId with
  | none => exact ⟨drain, rfl, ready, rfl⟩
  | some event =>
      exact ⟨_, ready.offer_eq event visit.answer, ready.settled event visit.answer,
        counts_settled drain event visit.answer⟩

theorem Counts.attempts {before after : RingDrain} {attempt : Option RawEvent}
    {answer : TrySend} (h : Counts before after attempt answer) :
    after.attempts = before.attempts ++ attempt.toList := by
  cases attempt with
  | none =>
      rw [Counts] at h
      rw [h, Option.toList_none, List.append_nil]
  | some event => exact h.1

/-- When every event was counted once, it still is. -/
theorem Counts.total {before after : RingDrain} {attempt : Option RawEvent}
    {answer : TrySend} (h : Counts before after attempt answer)
    (hcounted : before.task.eventsTotal + before.task.eventsLost =
      UInt64.ofNat before.attempts.length) :
    after.task.eventsTotal + after.task.eventsLost = UInt64.ofNat after.attempts.length := by
  cases attempt with
  | none =>
      rw [Counts] at h
      rw [h]
      exact hcounted
  | some event =>
      obtain ⟨hattempts, hbooks⟩ := h
      have hlength : UInt64.ofNat after.attempts.length =
          UInt64.ofNat before.attempts.length + 1 := by
        rw [hattempts, List.length_append, List.length_singleton, UInt64.ofNat_add]
        rfl
      rw [hlength, ← hcounted]
      split at hbooks
      · rw [hbooks.1, hbooks.2, UInt64.add_assoc, UInt64.add_comm 1, ← UInt64.add_assoc]
      · rw [hbooks.1, hbooks.2, UInt64.add_assoc]

/-- All items, in order: the loop comes to their end, and the events offered are those of
the items. -/
theorem Ready.run {drain : RingDrain} (ready : drain.Ready) (probeId : ProbeId)
    {visits : List RingVisit} (hclock : ∀ visit ∈ visits, 0 ≤ visit.now.nanos) :
    ∃ final, drain.run probeId visits = some final ∧ final.Ready ∧
      final.attempts =
        drain.attempts ++ visits.filterMap fun visit => visit.attempt probeId := by
  induction visits generalizing drain with
  | nil => exact ⟨drain, rfl, ready, by simp⟩
  | cons visit rest ih =>
      rw [List.forall_mem_cons] at hclock
      obtain ⟨next, hturn, hready, hcounts⟩ := ready.turn probeId hclock.1
      obtain ⟨final, hrest, hfinal, hattempts⟩ := ih hready hclock.2
      refine ⟨final, by rw [RingDrain.run, hturn]; exact hrest, hfinal, ?_⟩
      rw [hattempts, hcounts.attempts, List.append_assoc, List.filterMap_cons]
      cases visit.attempt probeId <;> rfl

theorem run_append {probeId : ProbeId} {drain final : RingDrain}
    {front back : List RingVisit} (h : drain.run probeId (front ++ back) = some final) :
    ∃ middle, drain.run probeId front = some middle ∧
      middle.run probeId back = some final := by
  induction front generalizing drain with
  | nil => exact ⟨drain, rfl, h⟩
  | cons visit rest ih =>
      rw [List.cons_append, RingDrain.run] at h
      rw [RingDrain.run]
      cases hturn : drain.turn probeId visit with
      | none => simp [hturn] at h
      | some next =>
          rw [hturn] at h
          exact ih h

theorem Ready.of_run {probeId : ProbeId} {drain final : RingDrain} (ready : drain.Ready)
    {visits : List RingVisit} (hclock : ∀ visit ∈ visits, 0 ≤ visit.now.nanos)
    (h : drain.run probeId visits = some final) : final.Ready := by
  obtain ⟨other, hother, hready, _⟩ := ready.run probeId hclock
  obtain rfl : other = final := Option.some.inj (hother.symm.trans h)
  exact hready

/-- The drain loop is faithful: it handles every item in order, offers one event with the
fields of the record for each item that begins with an image, none for a short item, and
counts each event once. -/
theorem run_faithful (probeId : ProbeId) (drain : RingDrain) (ready : drain.Ready)
    (visits : List RingVisit) (hclock : ∀ visit ∈ visits, 0 ≤ visit.now.nanos) :
    ∃ final, drain.run probeId visits = some final ∧
      final.attempts =
        drain.attempts ++ visits.filterMap (fun visit => visit.attempt probeId) ∧
      (∀ visit ∈ visits, visit.item.length < probeId.recordSize →
        visit.attempt probeId = none) ∧
      (∀ visit ∈ visits, ∀ (record : BpfRecord) (image trailing : List UInt8),
        record.probe = probeId → record.IsImage image → visit.item = image ++ trailing →
          ∃ event, visit.attempt probeId = some event ∧ event.payload = record.payload) ∧
      ∀ front visit back, visits = front ++ visit :: back →
        ∃ before after, drain.run probeId front = some before ∧
          before.turn probeId visit = some after ∧ after.run probeId back = some final ∧
          Counts before after (visit.attempt probeId) visit.answer := by
  obtain ⟨final, hrun, _, hattempts⟩ := ready.run probeId hclock
  refine ⟨final, hrun, hattempts, ?_, ?_, ?_⟩
  · intro visit _ hshort
    have hnone := (decodePayload_eq_none_iff probeId visit.item).mpr hshort
    rw [RingVisit.attempt, hnone]
  · intro visit _ record image trailing hprobe himage hitem
    have hpayload := decodePayload_image himage trailing
    rw [hprobe, ← hitem] at hpayload
    rw [RingVisit.attempt, hpayload]
    exact ⟨_, rfl, rfl⟩
  · intro front visit back hsplit
    rw [hsplit] at hrun hclock
    obtain ⟨before, hbefore, hrest⟩ := run_append hrun
    have hfront : ∀ other ∈ front, 0 ≤ other.now.nanos :=
      fun other hmem => hclock other (List.mem_append_left _ hmem)
    have hready := ready.of_run hfront hbefore
    obtain ⟨after, hturn, _, hcounts⟩ := hready.turn probeId (hclock visit (by simp))
    rw [RingDrain.run, hturn] at hrest
    exact ⟨before, after, hbefore, hturn, hrest, hcounts⟩

/-- The task as it is spawned. -/
def spawned : RingDrain := { task := .spawned .ebpf, cumulativeLost := 0, attempts := [] }

/-- A truncated item, and a record followed by other bytes that meets a full channel. -/
def shortAndLong : List RingVisit :=
  [{ item := [1, 2, 3], now := ⟨5⟩, answer := .ok },
    { item := List.replicate 20 7, now := ⟨9⟩, answer := .full }]

/-- One event is offered for the two items. -/
theorem run_faithful_two :
    ∃ final, spawned.run .memPressure shortAndLong = some final ∧
      final.attempts.length = 1 := by
  have hclock : ∀ visit ∈ shortAndLong, 0 ≤ visit.now.nanos := by decide
  obtain ⟨final, hrun, hattempts, _⟩ :=
    run_faithful .memPressure spawned ⟨rfl, rfl⟩ shortAndLong hclock
  refine ⟨final, hrun, ?_⟩
  rw [hattempts]
  rfl

end RingDrain

end DaemonChoir.Conductor
