import DaemonChoir.Conductor.RingDrain
import DaemonChoir.Foundation.Pipeline
import DaemonChoir.Kernel.Programs
set_option autoImplicit false

/-!
# Conductor: from the tracepoints to the raw channel

The four programs in the kernel, the ring buffer of each, and the drain loop of each, one
handler or one turn at a time.  The structure goes through the ring buffer as bytes; where it
ends in a `u32`, four bytes behind it are whatever they were.
-/

namespace DaemonChoir.Conductor

open DaemonChoir.Common DaemonChoir.Foundation DaemonChoir.Kernel

/-! ## The code -/

/-- The programs and the drain loops with what is between them. -/
structure RingPath where
  wakeupTimestamps : WakeupTimestamps
  /-- The items of each ring buffer, oldest first. -/
  ring : ProbeId → List (List UInt8)
  task : ProbeId → ProbeTask
  cumulativeLostEvents : UInt64
  /-- The events that each loop has offered to the raw channel. -/
  attempts : ProbeId → List RawEvent

/-- What happens next. -/
inductive RingPathLabel where
  /-- A tracepoint fires; the padding of the structure is given. -/
  | fire (tracepoint : TracepointHit) (padding : List UInt8)
  /-- A drain loop takes an item: the clock, and the answer of the raw channel. -/
  | drain (probeId : ProbeId) (now : SystemTime) (answer : TrySend)

namespace RingPath

/-- Nothing has fired. -/
def started : RingPath where
  wakeupTimestamps := .empty _ _ _
  ring _ := []
  task _ := .spawned .ebpf
  cumulativeLostEvents := 0
  attempts _ := []

/-- A structure is submitted to the ring buffer of its program. -/
def submit (path : RingPath) (record : BpfRecord) (padding : List UInt8) : Option RingPath :=
  if (record.fieldBytes ++ padding).length = record.probe.recordSize then
    some { path with
      ring := Function.update path.ring record.probe
        (path.ring record.probe ++ [record.fieldBytes ++ padding]) }
  else none

/-- A tracepoint fires. -/
def fire (path : RingPath) (tracepoint : TracepointHit) (padding : List UInt8) : Option RingPath :=
  match Kernel.fire path.wakeupTimestamps tracepoint with
  | (map, none) => some { path with wakeupTimestamps := map }
  | (map, some record) => { path with wakeupTimestamps := map }.submit record padding

/-- The drain loop of a probe with the counter that all loops share. -/
def drainOf (path : RingPath) (probeId : ProbeId) : RingDrain where
  task := path.task probeId
  cumulativeLost := path.cumulativeLostEvents
  attempts := path.attempts probeId

/-- A drain loop takes the oldest item. -/
def drain (path : RingPath) (probeId : ProbeId) (now : SystemTime) (answer : TrySend) :
    Option RingPath :=
  match path.ring probeId with
  | [] => none
  | item :: rest =>
      match (path.drainOf probeId).turn probeId { item, now, answer } with
      | none => none
      | some after =>
          some { path with
            ring := Function.update path.ring probeId rest
            task := Function.update path.task probeId after.task
            cumulativeLostEvents := after.cumulativeLost
            attempts := Function.update path.attempts probeId after.attempts }

/-- One handler or one turn. -/
def step (path : RingPath) : RingPathLabel → Option RingPath
  | .fire tracepoint padding => path.fire tracepoint padding
  | .drain probeId now answer => path.drain probeId now answer

/-! ## What a step can do -/

variable {path next : RingPath}

/-- A tracepoint that fires appends an image of the structure, if one is submitted. -/
theorem fire_cases {tracepoint : TracepointHit} {padding : List UInt8}
    (h : path.fire tracepoint padding = some next) :
    next.task = path.task ∧ next.attempts = path.attempts ∧
      (((Kernel.fire path.wakeupTimestamps tracepoint).2 = none ∧ next.ring = path.ring) ∨
        ∃ record image, (Kernel.fire path.wakeupTimestamps tracepoint).2 = some record ∧
          record.IsImage image ∧
          next.ring = Function.update path.ring record.probe
            (path.ring record.probe ++ [image])) := by
  unfold fire at h
  split at h
  · rename_i map hfire
    cases h
    exact ⟨rfl, rfl, .inl ⟨by rw [hfire], rfl⟩⟩
  · rename_i map record hfire
    unfold submit at h
    split at h
    · rename_i hlength
      cases h
      exact ⟨rfl, rfl, .inr ⟨record, _, by rw [hfire], ⟨padding, rfl, hlength⟩, rfl⟩⟩
    · cases h

theorem drain_cases {probeId : ProbeId} {now : SystemTime} {answer : TrySend}
    (h : path.drain probeId now answer = some next) :
    ∃ item rest after, path.ring probeId = item :: rest ∧
      (path.drainOf probeId).turn probeId { item, now, answer } = some after ∧
      next = { path with
        ring := Function.update path.ring probeId rest
        task := Function.update path.task probeId after.task
        cumulativeLostEvents := after.cumulativeLost
        attempts := Function.update path.attempts probeId after.attempts } := by
  unfold drain at h
  split at h
  · cases h
  · rename_i item rest hring
    split at h
    · cases h
    · rename_i after hturn
      exact ⟨item, rest, after, hring, hturn, (Option.some.inj h).symm⟩

theorem nanos_of_turn {probeId : ProbeId} {drain after : RingDrain} {visit : RingVisit}
    (h : drain.turn probeId visit = some after) : 0 ≤ visit.now.nanos := by
  unfold RingDrain.turn at h
  split at h
  · cases h
  · rename_i hclock
    exact not_lt.mp hclock

/-- Every drain loop is at its head, and has counted each event that it has offered. -/
structure Kept (path : RingPath) : Prop where
  ready : ∀ probeId, (path.drainOf probeId).Ready
  counted : ∀ probeId, (path.task probeId).eventsTotal + (path.task probeId).eventsLost =
    UInt64.ofNat (path.attempts probeId).length
  labelled : ∀ probeId, ∀ event ∈ path.attempts probeId, event.probe = probeId

theorem kept_started : started.Kept where
  ready _ := ⟨rfl, rfl⟩
  counted _ := rfl
  labelled _ _ hmem := by cases hmem

theorem Kept.step {label : RingPathLabel} (kept : path.Kept) (h : path.step label = some next) :
    next.Kept := by
  cases label with
  | fire tracepoint padding =>
      obtain ⟨htask, hattempts, _⟩ := fire_cases h
      exact {
        ready := fun probeId => by
          have hready := kept.ready probeId
          exact ⟨by rw [drainOf, htask]; exact hready.kind,
            by rw [drainOf, htask]; exact hready.pc⟩
        counted := by
          rw [htask, hattempts]
          exact kept.counted
        labelled := by
          rw [hattempts]
          exact kept.labelled }
  | drain probeId now answer =>
      obtain ⟨item, rest, after, hring, hturn, rfl⟩ := drain_cases h
      obtain ⟨reached, hreached, hready, hcounts⟩ :=
        (kept.ready probeId).turn probeId (nanos_of_turn hturn)
      obtain rfl : reached = after := Option.some.inj (hreached.symm.trans hturn)
      refine ⟨fun other => ?_, fun other => ?_, fun other event hmem => ?_⟩
      · by_cases hother : other = probeId
        · subst hother
          exact ⟨by simp [drainOf, hready.kind], by simp [drainOf, hready.pc]⟩
        · have hbefore := kept.ready other
          exact ⟨by simpa [drainOf, hother] using hbefore.kind,
            by simpa [drainOf, hother] using hbefore.pc⟩
      · by_cases hother : other = probeId
        · subst hother
          simp only [Function.update_self]
          exact hcounts.total (kept.counted other)
        · simpa [hother] using kept.counted other
      · by_cases hother : other = probeId
        · subst hother
          simp only [Function.update_self, hcounts.attempts, List.mem_append] at hmem
          rcases hmem with hmem | hmem
          · exact kept.labelled other event hmem
          · exact RingVisit.probe_of_attempt (Option.mem_toList.mp hmem)
        · exact kept.labelled other event (by simpa [hother] using hmem)

/-! ## Runs -/

/-- The payload that is submitted for a probe. -/
def submitted (probeId : ProbeId) : RingPath × RingPathLabel → List EventPayload
  | (path, .fire tracepoint _) =>
      match (Kernel.fire path.wakeupTimestamps tracepoint).2 with
      | some record => if record.probe = probeId then [record.payload] else []
      | none => []
  | _ => []

/-- The payload that a drain loop takes from its ring buffer. -/
def drained (probeId : ProbeId) : RingPath × RingPathLabel → List EventPayload
  | (path, .drain drainer _ _) =>
      if drainer = probeId then
        ((path.ring drainer).head?.bind (decodePayload drainer)).toList
      else []
  | _ => []

theorem decodePayload_of_isImage {record : BpfRecord} {image : List UInt8}
    (h : record.IsImage image) : decodePayload record.probe image = some record.payload := by
  have himage := decodePayload_image h []
  rwa [List.append_nil] at himage

/-- What is submitted comes out of the ring buffer. -/
theorem ring_hand (probeId : ProbeId) {label : RingPathLabel} (h : path.step label = some next) :
    (path.ring probeId).filterMap (decodePayload probeId) ++ submitted probeId (path, label) =
      drained probeId (path, label) ++ (next.ring probeId).filterMap (decodePayload probeId) := by
  cases label with
  | fire tracepoint padding =>
      obtain ⟨_, _, ⟨hnone, hring⟩ | ⟨record, image, hsome, himage, hring⟩⟩ := fire_cases h
      · simp [submitted, drained, hnone, hring]
      · by_cases hprobe : record.probe = probeId
        · subst hprobe
          simp [submitted, drained, hsome, hring, decodePayload_of_isImage himage]
        · simp [submitted, drained, hsome, hring, hprobe,
            Function.update_of_ne (Ne.symm hprobe)]
  | drain drainer now answer =>
      obtain ⟨item, rest, after, hring, _, rfl⟩ := drain_cases h
      by_cases hprobe : drainer = probeId
      · subst hprobe
        cases hdecode : decodePayload drainer item with
        | none => simp [submitted, drained, hring, hdecode]
        | some payload => simp [submitted, drained, hring, hdecode]
      · simp [submitted, drained, hprobe, Function.update_of_ne (Ne.symm hprobe)]

/-- What comes out is offered. -/
theorem attempts_step (kept : path.Kept) (probeId : ProbeId) {label : RingPathLabel}
    (h : path.step label = some next) :
    (next.attempts probeId).map RawEvent.payload =
      (path.attempts probeId).map RawEvent.payload ++ drained probeId (path, label) := by
  cases label with
  | fire tracepoint padding =>
      obtain ⟨_, hattempts, _⟩ := fire_cases h
      rw [hattempts]
      exact (List.append_nil _).symm
  | drain drainer now answer =>
      obtain ⟨item, rest, after, hring, hturn, rfl⟩ := drain_cases h
      by_cases hprobe : drainer = probeId
      · subst hprobe
        obtain ⟨reached, hreached, _, hcounts⟩ :=
          (kept.ready drainer).turn drainer (nanos_of_turn hturn)
        obtain rfl : reached = after := Option.some.inj (hreached.symm.trans hturn)
        simp only [Function.update_self, hcounts.attempts, List.map_append, drained, if_true,
          hring, List.head?_cons, Option.bind_some]
        rw [← RingVisit.payload_attempt ⟨item, now, answer⟩ drainer]
        cases RingVisit.attempt ⟨item, now, answer⟩ drainer <;> rfl
      · simp [drained, hprobe, Function.update_of_ne (Ne.symm hprobe)]

section History

variable {trace : List (RingPath × RingPathLabel)} {final : RingPath}

theorem kept_of_run (run : Run step started trace final) : final.Kept :=
  run.state_invariant Kept kept_started Kept.step

/-- The payloads offered, and after them those in the ring buffer, are those submitted. -/
theorem payloads_of_run (run : Run step started trace final) (probeId : ProbeId) :
    (final.attempts probeId).map RawEvent.payload ++
        (final.ring probeId).filterMap (decodePayload probeId) =
      trace.flatMap (submitted probeId) := by
  have hinvariant := run.invariant
    (fun front path => path.Kept ∧
      (path.attempts probeId).map RawEvent.payload = front.flatMap (drained probeId))
    ⟨kept_started, rfl⟩
    fun _ inv taken => by
      refine ⟨inv.1.step taken, ?_⟩
      rw [attempts_step inv.1 probeId taken, inv.2, List.flatMap_append, List.flatMap_singleton]
  have hring : trace.flatMap (submitted probeId) = trace.flatMap (drained probeId) ++
      (final.ring probeId).filterMap (decodePayload probeId) :=
    run.in_order (fun path => (path.ring probeId).filterMap (decodePayload probeId))
      (submitted probeId) _ rfl (ring_hand probeId)
  rw [hring, hinvariant.2]

theorem submitted_of_attempt (run : Run step started trace final) {probeId : ProbeId}
    {event : RawEvent} (hmem : event ∈ final.attempts probeId) :
    ∃ map tracepoint record, (Kernel.fire map tracepoint).2 = some record ∧
      record.payload = event.payload := by
  have hpayload : event.payload ∈ trace.flatMap (submitted probeId) := by
    rw [← payloads_of_run run probeId]
    exact List.mem_append_left _ (List.mem_map_of_mem hmem)
  obtain ⟨⟨path, label⟩, _, hsubmitted⟩ := List.mem_flatMap.mp hpayload
  cases label with
  | fire tracepoint padding =>
      simp only [submitted] at hsubmitted
      split at hsubmitted
      · rename_i record hrecord
        split at hsubmitted
        · exact ⟨_, _, record, hrecord, (List.mem_singleton.mp hsubmitted).symm⟩
        · cases hsubmitted
      · cases hsubmitted
  | drain drainer now answer => cases hsubmitted

/-- Whatever the tracepoints do, the conductor offers for each probe the structures that its
program has submitted, field by field and in order, up to those that are still in the ring
buffer; every event bears the name of its probe and is counted once, as accepted or as
lost. -/
theorem events_of_submitted (run : Run step started trace final) (probeId : ProbeId) :
    (final.attempts probeId).map RawEvent.payload ++
        (final.ring probeId).filterMap (decodePayload probeId) =
      trace.flatMap (submitted probeId) ∧
    (∀ event ∈ final.attempts probeId, event.probe = probeId) ∧
    (final.task probeId).eventsTotal + (final.task probeId).eventsLost =
      UInt64.ofNat (final.attempts probeId).length := by
  have kept := kept_of_run run
  exact ⟨payloads_of_run run probeId, kept.labelled probeId, kept.counted probeId⟩

end History

/-- Pages are reclaimed, a packet goes out, and a second one finds its ring buffer full; the
first loop takes its item. -/
def pagesAndPackets : List RingPathLabel :=
  [.fire (.mmVmscan { nid := 1, nrReclaimed := 64 } true) [1, 2, 3, 4],
    .fire (.netDevXmit { len := 1500, name := none } true) [],
    .fire (.netDevXmit { len := 40, name := none } false) [],
    .drain .memPressure ⟨5000⟩ .full]

/-- The pages have arrived and were lost on the raw channel; one packet is still in the
ring buffer. -/
theorem events_of_submitted_two :
    ∃ trace final, Run step started trace final ∧
      trace.flatMap (submitted .memPressure) =
        [.memPressure { pagesReclaimed := 64, zone := 1 }] ∧
      (final.attempts .memPressure).map RawEvent.payload ++
          (final.ring .memPressure).filterMap (decodePayload .memPressure) =
        trace.flatMap (submitted .memPressure) ∧
      (final.ring .netIo).length = 1 ∧ (final.task .memPressure).eventsLost = 1 := by
  have run : Run step started _ _ := execute_sound pagesAndPackets rfl
  exact ⟨_, _, run, rfl, (events_of_submitted run .memPressure).1, rfl, rfl⟩

end RingPath

end DaemonChoir.Conductor
