import DaemonChoir.Common.Ieee
import DaemonChoir.Conductor.Ingest
import DaemonChoir.Foundation.Pipeline
set_option autoImplicit false

/-!
# Conductor: from the probes into the windows in order

The probes race into one channel, and both channels refuse events when they are full.  What
the windows see is still, probe by probe, a subsequence of what the probe has generated:
nothing is reordered within a probe, repeated or made up.
-/

namespace DaemonChoir.Conductor

open DaemonChoir.Common DaemonChoir.Foundation

namespace Ingest

/-! ## What moves at a visit -/

section Visits

variable {ι F : Type}

/-- The window that a tick folds. -/
def foldedEvents : Ingest ι F × IngestLabel ι → List RawEvent
  | (ingest, .tick _ mapper) =>
      if mapper = .closed then [] else ingest.aggregator.currentWindowEvents
  | _ => []

/-- The event that the aggregator receives. -/
def aggregated : Ingest ι F × IngestLabel ι → List RawEvent
  | (ingest, .aggregate) => ingest.aggEvents.queue.head?.toList
  | _ => []

/-- The event that leaves the hands of the consumer. -/
def forwarded : Ingest ι F × IngestLabel ι → List RawEvent
  | (ingest, .forward) => ingest.consumer.forwarding?.toList
  | _ => []

/-- The event that the channel to the aggregator takes. -/
def admitted : Ingest ι F × IngestLabel ι → List RawEvent
  | (ingest, .forward) =>
      if ingest.aggEvents.Refuses then [] else ingest.consumer.forwarding?.toList
  | _ => []

/-- The event that the consumer receives. -/
def received : Ingest ι F × IngestLabel ι → List RawEvent
  | (ingest, .receive) => ingest.rawEvents.queue.head?.toList
  | _ => []

/-- The event that the raw channel takes, with its probe. -/
def entered : Ingest ι F × IngestLabel ι → List (ι × RawEvent)
  | (ingest, .send probe) =>
      if ingest.rawEvents.Refuses then []
      else (ingest.probes probe).offered.toList.map fun event => (probe, event)
  | _ => []

/-- A channel refuses an event. -/
def refused : Ingest ι F × IngestLabel ι → Prop
  | (ingest, .send _) => ingest.rawEvents.Refuses
  | (ingest, .forward) => ingest.aggEvents.Refuses
  | _ => False

variable [DecidableEq ι]

/-- The event that leaves the hands of a probe. -/
def sentBy (probe : ι) : Ingest ι F × IngestLabel ι → List RawEvent
  | (ingest, .send sender) => if sender = probe then (ingest.probes sender).offered.toList else []
  | _ => []

/-- The event that a probe generates or decodes. -/
def generatedBy (probe : ι) : Ingest ι F × IngestLabel ι → List RawEvent
  | (_, .generate generator event) => if generator = probe then [event] else []
  | _ => []

end Visits

/-! ## What a step moves -/

section Hands

variable {ι F : Type} [Float64 F] [DecidableEq ι] {ingest next : Ingest ι F}
  {label : IngestLabel ι}

/-- A probe sends what it has generated. -/
theorem probe_hand (probe : ι) (taken : ingest.step label = some next) :
    (ingest.probes probe).offered.toList ++ generatedBy probe (ingest, label) =
      sentBy probe (ingest, label) ++ (next.probes probe).offered.toList := by
  cases label with
  | generate generator event =>
      obtain ⟨task, hgenerate, rfl⟩ := Option.map_eq_some_iff.mp taken
      obtain ⟨hlooping, hholding⟩ := ProbeTask.offered_generate hgenerate
      by_cases hprobe : generator = probe
      · subst hprobe
        simp [generatedBy, sentBy, setProbe, hlooping, hholding]
      · simp [generatedBy, sentBy, setProbe, hprobe, Function.update_of_ne (Ne.symm hprobe)]
  | send sender =>
      obtain ⟨event, answer, after, hoffered, _, rfl⟩ := send_cases taken
      by_cases hprobe : sender = probe
      · subst hprobe
        simp [generatedBy, sentBy, setProbe, ProbeTask.offered_sent]
      · simp [generatedBy, sentBy, setProbe, hprobe, Function.update_of_ne (Ne.symm hprobe)]
  | account accountant =>
      obtain ⟨⟨task, lost⟩, haccount, rfl⟩ := Option.map_eq_some_iff.mp taken
      obtain ⟨hbefore, hafter⟩ := ProbeTask.offered_account haccount
      by_cases hprobe : accountant = probe
      · subst hprobe
        simp [generatedBy, sentBy, setProbe, hbefore, hafter]
      · simp [generatedBy, sentBy, setProbe, Function.update_of_ne (Ne.symm hprobe)]
  | leave leaver =>
      obtain ⟨task, hleave, rfl⟩ := Option.map_eq_some_iff.mp taken
      obtain ⟨hbefore, hafter⟩ := ProbeTask.offered_leave hleave
      by_cases hprobe : leaver = probe
      · subst hprobe
        simp [generatedBy, sentBy, setProbe, hbefore, hafter]
      · simp [generatedBy, sentBy, setProbe, Function.update_of_ne (Ne.symm hprobe)]
  | shutdown =>
      cases taken
      simp [generatedBy, sentBy]
  | receive =>
      obtain ⟨_, ⟨_, _, _, rfl⟩ | ⟨_, rfl⟩⟩ := receive_cases taken <;>
        simp [generatedBy, sentBy]
  | forward =>
      obtain ⟨_, _, _, _, _, ⟨_, rfl⟩ | ⟨_, rfl⟩⟩ := forward_cases taken <;>
        simp [generatedBy, sentBy]
  | aggregate =>
      obtain ⟨_, ⟨_, _, _, rfl⟩ | ⟨_, rfl⟩⟩ := aggregate_cases taken <;>
        simp [generatedBy, sentBy]
  | tick nowUs mapper =>
      obtain ⟨_, ⟨_, rfl⟩ | ⟨_, rfl⟩⟩ := tick_cases taken <;>
        simp [generatedBy, sentBy]

/-- The steps of the probes leave everything behind the raw channel alone. -/
theorem behind_of_probe (hlabel : label ≠ .receive ∧ label ≠ .forward ∧ label ≠ .aggregate ∧
      ∀ nowUs mapper, label ≠ .tick nowUs mapper)
    (taken : ingest.step label = some next) :
    next.consumer = ingest.consumer ∧ next.aggEvents = ingest.aggEvents ∧
      next.aggregator = ingest.aggregator := by
  obtain ⟨hreceive, hforward, haggregate, htick⟩ := hlabel
  cases label with
  | generate probe event =>
      obtain ⟨task, _, rfl⟩ := Option.map_eq_some_iff.mp taken
      exact ⟨rfl, rfl, rfl⟩
  | send probe =>
      obtain ⟨event, answer, after, _, _, rfl⟩ := send_cases taken
      exact ⟨rfl, rfl, rfl⟩
  | account probe =>
      obtain ⟨books, _, rfl⟩ := Option.map_eq_some_iff.mp taken
      exact ⟨rfl, rfl, rfl⟩
  | leave probe =>
      obtain ⟨task, _, rfl⟩ := Option.map_eq_some_iff.mp taken
      exact ⟨rfl, rfl, rfl⟩
  | shutdown =>
      cases taken
      exact ⟨rfl, rfl, rfl⟩
  | receive => exact absurd rfl hreceive
  | forward => exact absurd rfl hforward
  | aggregate => exact absurd rfl haggregate
  | tick nowUs mapper => exact absurd rfl (htick nowUs mapper)

/-- The consumer receives what the raw channel has taken. -/
theorem raw_hand (taken : ingest.step label = some next) :
    ingest.rawEvents.queue ++ (entered (ingest, label)).map Prod.snd =
      received (ingest, label) ++ next.rawEvents.queue := by
  cases label with
  | send probe =>
      obtain ⟨event, answer, after, hoffered, hsend, rfl⟩ := send_cases taken
      simp only [entered, received, hoffered, Option.toList_some, List.map_cons, List.map_nil,
        List.nil_append, Channel.trySend_queue hsend]
      split <;> rfl
  | generate probe event =>
      obtain ⟨task, _, rfl⟩ := Option.map_eq_some_iff.mp taken
      exact List.append_nil _
  | account probe =>
      obtain ⟨books, _, rfl⟩ := Option.map_eq_some_iff.mp taken
      exact List.append_nil _
  | leave probe =>
      obtain ⟨task, _, rfl⟩ := Option.map_eq_some_iff.mp taken
      exact List.append_nil _
  | shutdown =>
      cases taken
      exact List.append_nil _
  | receive =>
      obtain ⟨_, ⟨event, rest, hrecv, rfl⟩ | ⟨hended, rfl⟩⟩ := receive_cases taken
      · simp [entered, received, (Channel.recv_item hrecv).1]
      · simp [entered, received, Channel.recv_ended hended]
  | forward =>
      obtain ⟨_, _, _, _, _, ⟨_, rfl⟩ | ⟨_, rfl⟩⟩ := forward_cases taken <;>
        simp [entered, received]
  | aggregate =>
      obtain ⟨_, ⟨_, _, _, rfl⟩ | ⟨_, rfl⟩⟩ := aggregate_cases taken <;>
        simp [entered, received]
  | tick nowUs mapper =>
      obtain ⟨_, ⟨_, rfl⟩ | ⟨_, rfl⟩⟩ := tick_cases taken <;>
        simp [entered, received]

/-- The consumer forwards what it has received. -/
theorem consumer_hand (taken : ingest.step label = some next) :
    ingest.consumer.forwarding?.toList ++ received (ingest, label) =
      forwarded (ingest, label) ++ next.consumer.forwarding?.toList := by
  cases label with
  | receive =>
      obtain ⟨hconsumer, ⟨event, rest, hrecv, rfl⟩ | ⟨hended, rfl⟩⟩ := receive_cases taken
      · simp [received, forwarded, hconsumer, RingbufConsumer.forwarding?,
          (Channel.recv_item hrecv).1]
      · simp [received, forwarded, hconsumer, RingbufConsumer.forwarding?,
          Channel.recv_ended hended]
  | forward =>
      obtain ⟨event, _, _, hconsumer, _, ⟨_, rfl⟩ | ⟨_, rfl⟩⟩ := forward_cases taken <;>
        simp [received, forwarded, RingbufConsumer.forwarding?]
  | aggregate =>
      obtain ⟨_, ⟨_, _, _, rfl⟩ | ⟨_, rfl⟩⟩ := aggregate_cases taken <;>
        simp [received, forwarded]
  | tick nowUs mapper =>
      obtain ⟨_, ⟨_, rfl⟩ | ⟨_, rfl⟩⟩ := tick_cases taken <;>
        simp [received, forwarded]
  | _ =>
      obtain ⟨hconsumer, _⟩ := behind_of_probe (by simp) taken
      simp [received, forwarded, hconsumer]

/-- The aggregator receives what its channel has taken. -/
theorem agg_hand (taken : ingest.step label = some next) :
    ingest.aggEvents.queue ++ admitted (ingest, label) =
      aggregated (ingest, label) ++ next.aggEvents.queue := by
  cases label with
  | receive =>
      obtain ⟨_, ⟨_, _, _, rfl⟩ | ⟨_, rfl⟩⟩ := receive_cases taken <;>
        simp [admitted, aggregated]
  | forward =>
      obtain ⟨event, answer, after, hconsumer, hsend, ⟨_, rfl⟩ | ⟨_, rfl⟩⟩ :=
        forward_cases taken <;>
        simp [admitted, aggregated, hconsumer, RingbufConsumer.forwarding?,
          Channel.trySend_queue hsend]
  | aggregate =>
      obtain ⟨_, ⟨event, rest, hrecv, rfl⟩ | ⟨hended, rfl⟩⟩ := aggregate_cases taken
      · simp [admitted, aggregated, (Channel.recv_item hrecv).1]
      · simp [admitted, aggregated, Channel.recv_ended hended]
  | tick nowUs mapper =>
      obtain ⟨_, ⟨_, rfl⟩ | ⟨_, rfl⟩⟩ := tick_cases taken <;>
        simp [admitted, aggregated]
  | _ =>
      obtain ⟨_, haggEvents, _⟩ := behind_of_probe (by simp) taken
      simp [admitted, aggregated, haggEvents]

/-- A tick folds what the aggregator has received. -/
theorem window_hand (taken : ingest.step label = some next) :
    ingest.aggregator.currentWindowEvents ++ aggregated (ingest, label) =
      foldedEvents (ingest, label) ++ next.aggregator.currentWindowEvents := by
  cases label with
  | receive =>
      obtain ⟨_, ⟨_, _, _, rfl⟩ | ⟨_, rfl⟩⟩ := receive_cases taken <;>
        simp [aggregated, foldedEvents]
  | forward =>
      obtain ⟨_, _, _, _, _, ⟨_, rfl⟩ | ⟨_, rfl⟩⟩ := forward_cases taken <;>
        simp [aggregated, foldedEvents]
  | aggregate =>
      obtain ⟨_, ⟨event, rest, hrecv, rfl⟩ | ⟨hended, rfl⟩⟩ := aggregate_cases taken
      · simp [aggregated, foldedEvents, (Channel.recv_item hrecv).1, Aggregator.push]
      · simp [aggregated, foldedEvents, Channel.recv_ended hended]
  | tick nowUs mapper =>
      obtain ⟨_, ⟨hclosed, rfl⟩ | ⟨hopen, rfl⟩⟩ := tick_cases taken
      · simp [aggregated, foldedEvents, hclosed]
      · simp [aggregated, foldedEvents, hopen, Aggregator.advance]
  | _ =>
      obtain ⟨_, _, haggregator⟩ := behind_of_probe (by simp) taken
      simp [aggregated, foldedEvents, haggregator]

end Hands

/-! ## Runs -/

section Order

variable {ι F : Type} [Float64 F] [DecidableEq ι] {kinds : ι → ProbeKind} {windowMs : UInt64}
  {trace : List (Ingest ι F × IngestLabel ι)} {final : Ingest ι F}

omit [Float64 F] in
/-- What the raw channel takes from one probe is what the probe has sent, unless it refuses. -/
theorem filter_entered (probe : ι) (visit : Ingest ι F × IngestLabel ι) :
    List.Sublist (((entered visit).filter fun arrival => arrival.1 = probe).map Prod.snd)
        (sentBy probe visit) ∧
      (¬ refused visit →
        ((entered visit).filter fun arrival => arrival.1 = probe).map Prod.snd =
          sentBy probe visit) := by
  obtain ⟨ingest, label⟩ := visit
  cases label with
  | send sender =>
      by_cases hrefuses : ingest.rawEvents.Refuses
      · simp [entered, refused, hrefuses]
      · by_cases hsender : sender = probe
        · simp [entered, sentBy, hrefuses, hsender, List.filter_map, Function.comp_def]
        · simp [entered, sentBy, hrefuses, hsender, List.filter_map, Function.comp_def]
  | _ => simp [entered, sentBy]

omit [Float64 F] [DecidableEq ι] in
/-- What the channel to the aggregator takes is what the consumer has forwarded, unless it
refuses. -/
theorem admitted_forwarded (visit : Ingest ι F × IngestLabel ι) :
    List.Sublist (admitted visit) (forwarded visit) ∧
      (¬ refused visit → admitted visit = forwarded visit) := by
  obtain ⟨ingest, label⟩ := visit
  cases label with
  | forward =>
      by_cases hrefuses : ingest.aggEvents.Refuses
      · simp [admitted, refused, hrefuses]
      · simp [admitted, forwarded, hrefuses]
  | _ => simp [admitted, forwarded]

/-- The events that were ever in a window are, probe by probe and in their order, events
that the probe has generated.  Where no channel has refused any, they are all of them up to
those that are still under way. -/
theorem events_in_order (run : Run step (started kinds windowMs) trace final) :
    (∃ arrivals : List (ι × RawEvent),
      arrivals.map Prod.snd =
        trace.flatMap foldedEvents ++ final.aggregator.currentWindowEvents ∧
      ∀ probe, List.Sublist
        ((arrivals.filter fun arrival => arrival.1 = probe).map Prod.snd)
        (trace.flatMap (generatedBy probe))) ∧
    ((∀ visit ∈ trace, ¬ refused visit) →
      ∃ arrivals : List (ι × RawEvent),
        arrivals.map Prod.snd =
          trace.flatMap foldedEvents ++ final.aggregator.currentWindowEvents ++
            final.aggEvents.queue ++ final.consumer.forwarding?.toList ++
            final.rawEvents.queue ∧
        ∀ probe, ((arrivals.filter fun arrival => arrival.1 = probe).map Prod.snd) ++
            (final.probes probe).offered.toList = trace.flatMap (generatedBy probe)) := by
  have hraw : trace.flatMap (fun visit => (entered visit).map Prod.snd) =
      trace.flatMap received ++ final.rawEvents.queue :=
    run.in_order (fun ingest => ingest.rawEvents.queue) _ received rfl raw_hand
  have hconsumer : trace.flatMap received =
      trace.flatMap forwarded ++ final.consumer.forwarding?.toList :=
    run.in_order (fun ingest => ingest.consumer.forwarding?.toList) received _ rfl
      consumer_hand
  have hagg : trace.flatMap admitted = trace.flatMap aggregated ++ final.aggEvents.queue :=
    run.in_order (fun ingest => ingest.aggEvents.queue) admitted _ rfl agg_hand
  have hwindow : trace.flatMap aggregated =
      trace.flatMap foldedEvents ++ final.aggregator.currentWindowEvents :=
    run.in_order (fun ingest => ingest.aggregator.currentWindowEvents) aggregated _ rfl
      window_hand
  have hprobe : ∀ probe, trace.flatMap (generatedBy probe) =
      trace.flatMap (sentBy probe) ++ (final.probes probe).offered.toList := fun probe =>
    run.in_order (fun ingest => (ingest.probes probe).offered.toList) (generatedBy probe) _ rfl
      (probe_hand probe)
  rw [← List.map_flatMap] at hraw
  refine ⟨?_, ?_⟩
  · -- each channel passes on a part of what it was given
    have hadmitted : List.Sublist (trace.flatMap admitted) (trace.flatMap forwarded) :=
      List.Sublist.flatMap_right trace fun visit _ => (admitted_forwarded visit).1
    have hreached : List.Sublist
        (trace.flatMap foldedEvents ++ final.aggregator.currentWindowEvents)
        ((trace.flatMap entered).map Prod.snd) := by
      rw [← hwindow, hraw, hconsumer]
      have hhead := (List.sublist_append_left (trace.flatMap aggregated) _).trans
        (hagg ▸ hadmitted)
      exact (hhead.trans (List.sublist_append_left _ _)).trans (List.sublist_append_left _ _)
    obtain ⟨arrivals, hsublist, heq⟩ := List.sublist_map_iff.mp hreached
    refine ⟨arrivals, heq.symm, fun probe => ?_⟩
    have hsent : List.Sublist
        (((trace.flatMap entered).filter fun arrival => arrival.1 = probe).map Prod.snd)
        (trace.flatMap (sentBy probe)) := by
      rw [List.filter_flatMap, List.map_flatMap]
      exact List.Sublist.flatMap_right trace fun visit _ => (filter_entered probe visit).1
    rw [hprobe probe]
    exact (((hsublist.filter _).map _).trans hsent).trans (List.sublist_append_left _ _)
  · intro htaken
    have hadmitted : trace.flatMap admitted = trace.flatMap forwarded :=
      List.flatMap_congr fun visit hmem => (admitted_forwarded visit).2 (htaken visit hmem)
    refine ⟨trace.flatMap entered, ?_, fun probe => ?_⟩
    · rw [hraw, hconsumer, ← hadmitted, hagg, hwindow]
    · have hsent : ((trace.flatMap entered).filter fun arrival => arrival.1 = probe).map
          Prod.snd = trace.flatMap (sentBy probe) := by
        rw [List.filter_flatMap, List.map_flatMap]
        exact List.flatMap_congr fun visit hmem =>
          (filter_entered probe visit).2 (htaken visit hmem)
      rw [hsent, hprobe probe]

end Order

/-- A process was started by the given program. -/
def processStarted (commHash : UInt64) : RawEvent :=
  { probe := .procLifecycle, timestampNs := 1
    payload := .procLifecycle { commHash := commHash, uidHash := 1 } }

/-- Two probes send three events; the last one is still in the raw channel. -/
def threeSent : List (IngestLabel Bool) :=
  [.generate false (processStarted 1), .generate true (processStarted 2), .send true, .send false,
    .account false, .account false, .generate false (processStarted 3), .receive, .forward,
    .send false, .receive, .forward, .aggregate, .tick 50000 .ok, .aggregate]

/-- The two probes overtake each other. -/
theorem events_in_order_three :
    ∃ trace final, Run step (started (F := Ieee) (fun _ : Bool => .simulated) 50) trace final ∧
      trace.flatMap foldedEvents = [processStarted 2] ∧
      final.aggregator.currentWindowEvents = [processStarted 1] ∧
      final.rawEvents.queue = [processStarted 3] ∧
      ∃ arrivals : List (Bool × RawEvent),
        arrivals.map Prod.snd =
          trace.flatMap foldedEvents ++ final.aggregator.currentWindowEvents ∧
        ∀ probe, List.Sublist
          ((arrivals.filter fun arrival => arrival.1 = probe).map Prod.snd)
          (trace.flatMap (generatedBy probe)) := by
  have run : Run step (started (F := Ieee) (fun _ : Bool => .simulated) 50) _ _ :=
    execute_sound threeSent rfl
  exact ⟨_, _, run, rfl, rfl, rfl, (events_in_order run).1⟩

end Ingest

end DaemonChoir.Conductor
