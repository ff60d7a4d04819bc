import DaemonChoir.Conductor.Ingest
set_option autoImplicit false

/-!
# Conductor: which events the loss counters account for

Events leave the tasks and channels of `Ingest` in three ways: folded into a snapshot,
refused by the raw channel, or refused by the channel to the aggregator.  Only the
second way is counted.

`held` counts the events that are somewhere on the way, and a step changes it by what is
generated and what leaves.  Each of the five operations has a balance lemma of its own, the
step lemma puts them together, and `Foundation.Accounting` turns the balance of a step into
one of a whole run.  The counters of the probes are compared with the failed sends of the
run in the same way.

Once nothing is under way, the two balances leave one equation between what was generated,
what was folded, what both channels refused and what the counters show.  The second channel
has no counter, so the books close exactly when it has refused nothing and no counter of a
probe has wrapped.
-/

namespace DaemonChoir.Conductor

open DaemonChoir.Common DaemonChoir.Foundation Finset

namespace Ingest

section Balance

variable {ι F : Type} [Fintype ι]

/-! ## The balance of one operation -/

theorem receive_balance {ingest next : Ingest ι F} (h : ingest.receive = some next)
    (hopen : next.Open) :
    ingest.Open ∧ next.held = ingest.held ∧ next.probes = ingest.probes := by
  obtain ⟨hconsumer, ⟨event, rest, hrecv, rfl⟩ | ⟨_, rfl⟩⟩ := receive_cases h
  · obtain ⟨hqueue, hgone, _⟩ := Channel.recv_item hrecv
    refine ⟨⟨hgone ▸ hopen.1, hopen.2⟩, ?_, rfl⟩
    simp only [held, hconsumer, RingbufConsumer.inHand, hqueue, List.length_cons]
    omega
  · exact absurd hopen.1 (by simp)

theorem forward_balance {ingest next : Ingest ι F} (h : ingest.forward = some next)
    (hopen : next.Open) :
    ingest.Open ∧ next.held + (if ingest.aggEvents.IsFull then 1 else 0) = ingest.held ∧
      next.probes = ingest.probes := by
  obtain ⟨event, answer, after, hconsumer, hsend, ⟨hanswer, rfl⟩ | ⟨_, rfl⟩⟩ := forward_cases h
  · rcases Channel.trySend_cases hsend with
      ⟨_, hgone, hroom, hqueue, _⟩ | ⟨_, hgone, hfull, rfl⟩ | ⟨hclosed, _⟩
    · have hnot : ¬ ingest.aggEvents.IsFull := Channel.not_isFull_of_lt hroom
      refine ⟨⟨hopen.1, hgone⟩, ?_, rfl⟩
      simp only [held, hconsumer, RingbufConsumer.inHand, hqueue, List.length_append,
        List.length_singleton, if_neg hnot]
      omega
    · refine ⟨⟨hopen.1, hgone⟩, ?_, rfl⟩
      simp only [held, hconsumer, RingbufConsumer.inHand, if_pos hfull]
      omega
    · exact absurd hclosed hanswer
  · exact absurd hopen.1 (by simp)

theorem aggregate_balance {ingest next : Ingest ι F} (h : ingest.aggregate = some next)
    (hopen : next.Open) :
    ingest.Open ∧ next.held = ingest.held ∧ next.probes = ingest.probes := by
  obtain ⟨_, ⟨event, rest, hrecv, rfl⟩ | ⟨_, rfl⟩⟩ := aggregate_cases h
  · obtain ⟨hqueue, hgone, _⟩ := Channel.recv_item hrecv
    refine ⟨⟨hopen.1, hgone ▸ hopen.2⟩, ?_, rfl⟩
    simp only [held, Aggregator.push, hqueue, List.length_cons, List.length_append,
      List.length_nil]
    omega
  · exact absurd hopen.2 (by simp)

theorem tick_balance [Float64 F] {ingest next : Ingest ι F} {nowUs : UInt64}
    {mapper : TrySend} (h : ingest.tick nowUs mapper = some next) (hopen : next.Open) :
    ingest.Open ∧
      next.held + ingest.aggregator.currentWindowEvents.length = ingest.held ∧
      next.probes = ingest.probes := by
  obtain ⟨_, ⟨_, rfl⟩ | ⟨_, rfl⟩⟩ := tick_cases h
  · exact absurd hopen.2 (by simp)
  · exact ⟨hopen, by simp [held, Aggregator.advance], rfl⟩

end Balance

section Probes

variable {ι F : Type} [DecidableEq ι]

theorem held_setProbe [Fintype ι] (ingest : Ingest ι F) (probe : ι) (task : ProbeTask) :
    (ingest.setProbe probe task).held + (ingest.probes probe).inHand =
      ingest.held + task.inHand := by
  have hsum := sum_component_update ingest.probes probe task ProbeTask.inHand
  simp only [held, setProbe] at hsum ⊢
  omega

theorem send_balance [Fintype ι] {ingest next : Ingest ι F} {probe : ι}
    (h : ingest.send probe = some next) (hopen : next.Open) :
    ingest.Open ∧ next.held + (if ingest.rawEvents.IsFull then 1 else 0) = ingest.held := by
  obtain ⟨event, answer, after, hoffered, hsend, rfl⟩ := send_cases h
  obtain ⟨hbefore, _, hafter, _⟩ := ProbeTask.sent_cases answer hoffered
  have hsum := ingest.held_setProbe probe ((ingest.probes probe).sent event answer)
  rw [hbefore, hafter] at hsum
  simp only [held, setProbe] at hsum ⊢
  rcases Channel.trySend_cases hsend with
    ⟨_, hgone, hroom, hqueue, _⟩ | ⟨_, hgone, hfull, rfl⟩ | ⟨_, hgone, rfl⟩
  · have hnot : ¬ ingest.rawEvents.IsFull := Channel.not_isFull_of_lt hroom
    refine ⟨⟨hgone, hopen.2⟩, ?_⟩
    rw [if_neg hnot, hqueue, List.length_append, List.length_singleton]
    omega
  · refine ⟨⟨hgone, hopen.2⟩, ?_⟩
    rw [if_pos hfull]
    omega
  · exact absurd hopen.1 (by simp [hgone])

/-! ## The balance of a step -/

/-- All that leaves the tasks and channels at a visit. -/
def left [Fintype ι] (visit : Ingest ι F × IngestLabel ι) : Nat :=
  folded visit + ∑ i, failedSend i visit + failedForward visit

theorem sum_failedSend [Fintype ι] (ingest : Ingest ι F) (probe : ι) :
    ∑ i, failedSend i (ingest, .send probe) =
      if ingest.rawEvents.IsFull then 1 else 0 := by
  by_cases hfull : ingest.rawEvents.IsFull
  · simp [failedSend, hfull]
  · simp [failedSend, hfull]

/-- Unless a channel is closed, an event enters or leaves only where it is counted. -/
theorem step_balance [Fintype ι] [Float64 F] {ingest next : Ingest ι F} {label : IngestLabel ι}
    (taken : ingest.step label = some next) (hopen : next.Open) :
    ingest.Open ∧ next.held + left (ingest, label) = ingest.held + generated (ingest, label) := by
  cases label with
  | generate probe event =>
      obtain ⟨task, htask, rfl⟩ := Option.map_eq_some_iff.mp taken
      obtain ⟨hinHand, _⟩ := ProbeTask.generate_cases htask
      have hsum := ingest.held_setProbe probe task
      refine ⟨hopen, ?_⟩
      simp only [left, folded, failedSend, failedForward, generated, Finset.sum_const_zero]
      omega
  | send probe =>
      obtain ⟨hbefore, hheld⟩ := send_balance taken hopen
      refine ⟨hbefore, ?_⟩
      rw [left, sum_failedSend]
      simp only [folded, failedForward, generated]
      omega
  | account probe =>
      obtain ⟨⟨task, lost⟩, htask, rfl⟩ := Option.map_eq_some_iff.mp taken
      obtain ⟨hbefore, hafter, _⟩ := ProbeTask.account_cases htask
      have hsum := ingest.held_setProbe probe task
      refine ⟨hopen, ?_⟩
      simp only [held, left, folded, failedSend, failedForward, generated,
        Finset.sum_const_zero, setProbe] at hsum ⊢
      omega
  | leave probe =>
      obtain ⟨task, htask, rfl⟩ := Option.map_eq_some_iff.mp taken
      obtain ⟨hinHand, _⟩ := ProbeTask.leave_cases htask
      have hsum := ingest.held_setProbe probe task
      refine ⟨hopen, ?_⟩
      simp only [left, folded, failedSend, failedForward, generated, Finset.sum_const_zero]
      omega
  | shutdown =>
      cases taken
      exact ⟨hopen, by simp [held, left, folded, failedSend, failedForward, generated]⟩
  | receive =>
      obtain ⟨hbefore, hheld, _⟩ := receive_balance taken hopen
      exact ⟨hbefore, by simp [hheld, left, folded, failedSend, failedForward, generated]⟩
  | forward =>
      obtain ⟨hbefore, hheld, _⟩ := forward_balance taken hopen
      exact ⟨hbefore, by simpa [left, folded, failedSend, failedForward, generated] using hheld⟩
  | aggregate =>
      obtain ⟨hbefore, hheld, _⟩ := aggregate_balance taken hopen
      exact ⟨hbefore, by simp [hheld, left, folded, failedSend, failedForward, generated]⟩
  | tick nowUs mapper =>
      obtain ⟨hbefore, hheld, _⟩ := tick_balance taken hopen
      exact ⟨hbefore, by simpa [left, folded, failedSend, failedForward, generated] using hheld⟩

/-! ## The counters of one probe -/

/-- The probe adds one to its `events_lost`. -/
def counted (probe : ι) : Ingest ι F × IngestLabel ι → Nat
  | (ingest, .account accountant) =>
      if accountant = probe then (ingest.probes probe).uncounted else 0
  | _ => 0

theorem setProbe_cases (ingest : Ingest ι F) (probe i : ι) (task : ProbeTask) :
    (probe = i ∧ (ingest.setProbe probe task).probes i = task) ∨
      (probe ≠ i ∧ (ingest.setProbe probe task).probes i = ingest.probes i) := by
  by_cases heq : probe = i
  · subst heq
    exact .inl ⟨rfl, Function.update_self ..⟩
  · exact .inr ⟨heq, Function.update_of_ne (Ne.symm heq) ..⟩

/-- Every failed send of a probe is counted once, in a step of its own. -/
theorem step_counters [Fintype ι] [Float64 F] {ingest next : Ingest ι F} {label : IngestLabel ι}
    (taken : ingest.step label = some next) (hopen : next.Open) (i : ι) :
    (next.probes i).uncounted + counted i (ingest, label) =
        (ingest.probes i).uncounted + failedSend i (ingest, label) ∧
      (next.probes i).eventsLost =
        (ingest.probes i).eventsLost + UInt64.ofNat (counted i (ingest, label)) := by
  cases label with
  | generate probe event =>
      obtain ⟨task, htask, rfl⟩ := Option.map_eq_some_iff.mp taken
      obtain ⟨_, huncounted, hlost⟩ := ProbeTask.generate_cases htask
      rcases ingest.setProbe_cases probe i task with ⟨rfl, hprobe⟩ | ⟨_, hprobe⟩ <;>
        simp [hprobe, counted, failedSend, huncounted, hlost]
  | send probe =>
      obtain ⟨hbefore, _⟩ := send_balance taken hopen
      obtain ⟨event, answer, after, hoffered, hsend, rfl⟩ := send_cases taken
      obtain ⟨_, huncounted, _, hlost, hcases⟩ := ProbeTask.sent_cases answer hoffered
      have hnotClosed : (ingest.rawEvents.trySend event).1 ≠ .closed :=
        Channel.trySend_ne_closed hbefore.1
      have hfull : (ingest.rawEvents.trySend event).1 = .full ↔
          ingest.rawEvents.IsFull := Channel.trySend_full_iff hbefore.1
      rw [hsend] at hnotClosed hfull
      rcases ingest.setProbe_cases probe i ((ingest.probes probe).sent event answer) with
        ⟨rfl, hprobe⟩ | ⟨hne, hprobe⟩
      · simp [hprobe, counted, failedSend, hlost, huncounted, hcases hnotClosed, hfull]
      · simp [hprobe, counted, failedSend, hne]
  | account probe =>
      obtain ⟨⟨task, lost⟩, htask, rfl⟩ := Option.map_eq_some_iff.mp taken
      obtain ⟨_, _, huncounted, hlost⟩ := ProbeTask.account_cases htask
      rcases ingest.setProbe_cases probe i task with ⟨rfl, hprobe⟩ | ⟨hne, hprobe⟩
      · simp only [hprobe, counted, failedSend, huncounted, hlost, if_true]
        exact ⟨by omega, trivial⟩
      · simp [hprobe, counted, failedSend, hne]
  | leave probe =>
      obtain ⟨task, htask, rfl⟩ := Option.map_eq_some_iff.mp taken
      obtain ⟨_, huncounted, hlost⟩ := ProbeTask.leave_cases htask
      rcases ingest.setProbe_cases probe i task with ⟨rfl, hprobe⟩ | ⟨_, hprobe⟩ <;>
        simp [hprobe, counted, failedSend, huncounted, hlost]
  | shutdown =>
      cases taken
      simp [counted, failedSend]
  | receive =>
      obtain ⟨_, _, hprobes⟩ := receive_balance taken hopen
      simp [hprobes, counted, failedSend]
  | forward =>
      obtain ⟨_, _, hprobes⟩ := forward_balance taken hopen
      simp [hprobes, counted, failedSend]
  | aggregate =>
      obtain ⟨_, _, hprobes⟩ := aggregate_balance taken hopen
      simp [hprobes, counted, failedSend]
  | tick nowUs mapper =>
      obtain ⟨_, _, hprobes⟩ := tick_balance taken hopen
      simp [hprobes, counted, failedSend]

end Probes

/-! ## Runs -/

section Runs

variable {ι F : Type} [Fintype ι] [DecidableEq ι] [Float64 F]
  {kinds : ι → ProbeKind} {windowMs : UInt64}
  {trace : List (Ingest ι F × IngestLabel ι)} {final : Ingest ι F}

/-- Where the generated events of a run are. -/
theorem run_balance (run : Run step (started kinds windowMs) trace final)
    (hopen : final.Open) :
    total generated trace = total folded trace + final.held +
      ∑ i, total (failedSend i) trace + total failedForward trace := by
  have hbalance := run.balance held generated left Open
    (fun taken hnext => (step_balance taken hnext).1)
    (fun taken hnext => (step_balance taken hnext).2) hopen
  have hstart : (started kinds windowMs : Ingest ι F).held = 0 := by
    simp [held, started, ProbeTask.spawned, ProbeTask.inHand, ProbeTask.offered,
      RingbufConsumer.inHand, Aggregator.new]
  have hleft : total left trace = total folded trace +
      ∑ i, total (failedSend i) trace + total failedForward trace := by
    rw [← total_sum]
    clear hbalance run
    induction trace using List.reverseRecOn with
    | nil => rfl
    | append_singleton trace visit ih =>
        simp only [total_append_singleton, ih, left]
        omega
  rw [hstart, hleft] at hbalance
  omega

/-- The counter of a probe holds the number of its failed sends, less one that is about
to be counted. -/
theorem run_eventsLost (run : Run step (started kinds windowMs) trace final)
    (hopen : final.Open) (i : ι) :
    ∃ counts, counts + (final.probes i).uncounted = total (failedSend i) trace ∧
      (final.probes i).eventsLost = UInt64.ofNat counts := by
  induction run with
  | nil => exact ⟨0, by simp [started, ProbeTask.spawned, ProbeTask.uncounted], rfl⟩
  | @snoc trace before next label _ taken ih =>
      obtain ⟨hbefore, _⟩ := step_balance taken hopen
      obtain ⟨counts, hcounts, hlost⟩ := ih hbefore
      obtain ⟨huncounted, hnext⟩ := step_counters taken hopen i
      refine ⟨counts + counted i (before, label), ?_, ?_⟩
      · rw [total_append_singleton, ← hcounts]
        omega
      · rw [hnext, hlost, UInt64.ofNat_add]

theorem idle_balance (run : Run step (started kinds windowMs) trace final)
    (hopen : final.Open) (hidle : final.Idle) :
    total generated trace =
      total folded trace + final.aggregator.currentWindowEvents.length +
        final.rawEvents.queue.length + final.aggEvents.queue.length +
        ∑ i, total (failedSend i) trace + total failedForward trace := by
  have hbalance := run_balance run hopen
  have hprobes : ∑ i, (final.probes i).inHand = 0 :=
    Finset.sum_eq_zero fun i _ => (hidle.1 i).inHand
  have hconsumer := hidle.2.inHand
  rw [held] at hbalance
  omega

/-- In an idle state the counters of the probes hold their failed sends modulo
`2 ^ 64`. -/
theorem idle_eventsLost (run : Run step (started kinds windowMs) trace final)
    (hopen : final.Open) (hidle : final.Idle) :
    ∑ i, (final.probes i).eventsLost.toNat =
      ∑ i, total (failedSend i) trace % 2 ^ 64 := by
  apply Finset.sum_congr rfl
  intro i _
  obtain ⟨counts, hcounts, hvalue⟩ := run_eventsLost run hopen i
  rw [(hidle.1 i).uncounted, Nat.add_zero] at hcounts
  rw [hvalue, hcounts, UInt64.toNat_ofNat']

/-- The books of a run in its final state: every event is in a snapshot, in the window,
in a channel or in a loss counter. -/
def Accounted (trace : List (Ingest ι F × IngestLabel ι)) (final : Ingest ι F) : Prop :=
  total generated trace =
    total folded trace + final.aggregator.currentWindowEvents.length +
      final.rawEvents.queue.length + final.aggEvents.queue.length +
      ∑ i, (final.probes i).eventsLost.toNat

/-- In an idle state with open channels every generated event is accounted for exactly
when no forward found the channel to the aggregator full and no probe failed to send
`2 ^ 64` times. -/
theorem accounted_iff (run : Run step (started kinds windowMs) trace final)
    (hopen : final.Open) (hidle : final.Idle) :
    Accounted trace final ↔
      (∀ visit ∈ trace, failedForward visit = 0) ∧
        ∀ i, total (failedSend i) trace < 2 ^ 64 := by
  have hbalance := idle_balance run hopen hidle
  rw [Accounted, idle_eventsLost run hopen hidle, ← total_eq_zero_iff,
    ← sum_mod_eq_iff _ (by decide)]
  omega

end Runs

/-! ## Two runs of one probe -/

/-- Some event. -/
def someEvent : RawEvent :=
  { probe := .netIo, timestampNs := 0
    payload := .netIo { bytesTx := 1, bytesRx := 1, devNameHash := 0 } }

/-- The steps that take one event from the probe to the aggregator's channel. -/
def oneEvent : List (IngestLabel Unit) :=
  [.generate () someEvent, .send (), .account (), .account (), .receive, .forward]

/-- One event travels into a snapshot. -/
theorem accounted_iff_one :
    ∃ (trace : List (Ingest Unit ℚ × IngestLabel Unit)) (final : Ingest Unit ℚ),
      Run step (started (fun _ => .simulated) 50) trace final ∧
        total generated trace = 1 ∧ total folded trace = 1 ∧ Accounted trace final := by
  have run : Run step (started (fun _ => .simulated) 50 : Ingest Unit ℚ) _ _ :=
    execute_sound (oneEvent ++ [.aggregate, .tick 0 .ok]) rfl
  refine ⟨_, _, run, rfl, rfl, (accounted_iff run ⟨rfl, rfl⟩ ?_).mpr ?_⟩
  · exact ⟨fun _ => .inl rfl, .inl rfl⟩
  · exact ⟨by decide, by decide⟩

/-- Nothing is under way except in the channel to the aggregator. -/
structure Ready (ingest : Ingest Unit ℚ) : Prop where
  probe : (ingest.probes ()).pc = .looping
  rawQueue : ingest.rawEvents.queue = []
  rawOpen : ingest.rawEvents.receiverGone = false
  consumer : ingest.consumer = .receiving
  aggOpen : ingest.aggEvents.receiverGone = false

/-- The probe gets one event into the empty raw channel. -/
theorem produce {ingest : Ingest Unit ℚ} (ready : Ready ingest) :
    ∃ trace next, Run step ingest trace next ∧ (next.probes ()).pc = .looping ∧
      next.rawEvents.queue = [someEvent] ∧ next.rawEvents.receiverGone = false ∧
      next.consumer = .receiving ∧ next.aggEvents = ingest.aggEvents := by
  rcases hsend : ingest.rawEvents.trySend someEvent with ⟨answer, after⟩
  have hroom : ingest.rawEvents.queue.length < eventCapacity := by
    rw [ready.rawQueue]
    decide
  rcases Channel.trySend_cases hsend with
    ⟨rfl, _, _, hqueue, hgone, _⟩ | ⟨_, _, hfull, _⟩ | ⟨_, hgone, _⟩
  · rw [ready.rawQueue, List.nil_append] at hqueue
    have run : Run step ingest _ _ :=
      execute_sound [.generate () someEvent, .send (), .account (), .account ()] <| by
        simp only [Foundation.execute, step, ProbeTask.generate, ready.probe,
          Option.map_some, send, Function.update_self, ProbeTask.offered, setProbe, hsend,
          ProbeTask.sent, ProbeTask.account]
        rfl
    exact ⟨_, _, run, by simp, hqueue, hgone, ready.consumer, rfl⟩
  · unfold Channel.IsFull at hfull
    omega
  · rw [ready.rawOpen] at hgone
    cases hgone

/-- Another event reaches the aggregator's channel, or is lost there when it is full. -/
theorem oneMore {ingest : Ingest Unit ℚ} (ready : Ready ingest) :
    ∃ trace next, Run step ingest trace next ∧ Ready next ∧
      (ingest.aggEvents.IsFull → total failedForward trace ≠ 0) ∧
      (¬ ingest.aggEvents.IsFull →
        next.aggEvents.queue.length = ingest.aggEvents.queue.length + 1) := by
  obtain ⟨trace, middle, first, hprobe, hraw, hrawOpen, hconsumer, hagg⟩ := produce ready
  obtain ⟨rest, hrecv⟩ := Channel.recv_of_queue_eq_cons hraw
  obtain ⟨hrest, hgone, _⟩ := Channel.recv_item hrecv
  rw [hraw] at hrest
  have hempty : rest.queue = [] := (List.cons.inj hrest).2.symm
  rcases hsend : middle.aggEvents.trySend someEvent with ⟨answer, after⟩
  have hopen : middle.aggEvents.receiverGone = false := hagg ▸ ready.aggOpen
  rcases Channel.trySend_cases hsend with
    ⟨rfl, _, hroom, hqueue, hafter, _⟩ | ⟨rfl, _, hfull, rfl⟩ | ⟨_, hclosed, _⟩
  · have second : Run step middle _ _ :=
      execute_sound [.receive, .forward] <| by
        simp only [Foundation.execute, step, receive, hrecv, hconsumer,
          RingbufConsumer.received, forward, hsend, RingbufConsumer.forwarded]
        rfl
    refine ⟨_, _, first.append second,
      ⟨hprobe, hempty, hgone.trans hrawOpen, rfl, hafter⟩, ?_, ?_⟩
    · intro hfull
      rw [← hagg, Channel.IsFull] at hfull
      omega
    · intro _
      rw [← hagg]
      simp [hqueue]
  · have second : Run step middle _ _ :=
      execute_sound [.receive, .forward] <| by
        simp only [Foundation.execute, step, receive, hrecv, hconsumer,
          RingbufConsumer.received, forward, hsend, RingbufConsumer.forwarded]
        rfl
    refine ⟨_, _, first.append second,
      ⟨hprobe, hempty, hgone.trans hrawOpen, rfl, hopen⟩, ?_, ?_⟩
    · intro _
      simp [total, failedForward, hfull]
    · intro hnot
      exact absurd (hagg ▸ hfull) hnot
  · rw [hopen] at hclosed
    cases hclosed

/-- With nobody receiving, any number of events up to the capacity piles up. -/
theorem pileUp (n : Nat) (hn : n ≤ eventCapacity) :
    ∃ trace final, Run step (started (fun _ => .simulated) 50) trace final ∧ Ready final ∧
      final.aggEvents.queue.length = n := by
  induction n with
  | zero => exact ⟨[], _, .nil, ⟨rfl, rfl, rfl, rfl, rfl⟩, rfl⟩
  | succ n ih =>
      obtain ⟨trace, middle, run, ready, hlength⟩ := ih (by omega)
      obtain ⟨more, final, last, hready, _, hnext⟩ := oneMore ready
      have hnot : ¬ middle.aggEvents.IsFull := by
        unfold Channel.IsFull
        omega
      exact ⟨_, final, run.append last, hready, by rw [hnext hnot, hlength]⟩

/-- The 2049th event meets a full channel and is counted nowhere. -/
theorem not_always_accounted :
    ¬ ∀ (kinds : Unit → ProbeKind) (windowMs : UInt64)
        (trace : List (Ingest Unit ℚ × IngestLabel Unit)) (final : Ingest Unit ℚ),
        Run step (started kinds windowMs) trace final → final.Open → final.Idle →
          Accounted trace final := by
  intro hclaim
  obtain ⟨trace, middle, run, ready, hlength⟩ := pileUp eventCapacity (Nat.le_refl _)
  obtain ⟨more, final, last, hready, hlost, _⟩ := oneMore ready
  have whole := run.append last
  have hopen : final.Open := ⟨hready.rawOpen, hready.aggOpen⟩
  have hidle : final.Idle := ⟨fun _ => .inl hready.probe, .inl hready.consumer⟩
  have haccounted := hclaim _ _ _ _ whole hopen hidle
  have hbalance := idle_balance whole hopen hidle
  have hcounters := idle_eventsLost whole hopen hidle
  have hmod : ∑ i, total (failedSend i) (trace ++ more) % 2 ^ 64 ≤
      ∑ i, total (failedSend i) (trace ++ more) :=
    Finset.sum_le_sum fun i _ => Nat.mod_le _ _
  have hforward : total failedForward (trace ++ more) =
      total failedForward trace + total failedForward more := by
    simp [total]
  have hmore := hlost hlength
  rw [Accounted] at haccounted
  omega

end Ingest

end DaemonChoir.Conductor
