import DaemonChoir.Conductor.EventLoss
import DaemonChoir.Conductor.Windows
import DaemonChoir.Foundation.Intervals
set_option autoImplicit false

/-!
# Conductor: staleness and waiting events

A window is empty when nothing was received in it; the events that wait in the channel to
the aggregator do not count.  Whether a tick or a receive is taken when both are ready is
the choice of `select!`, so that five empty windows may pass while an event waits.

Two statistics of a run decide whether a tick emits a stale snapshot: which visits are
ticks and which are receives.  `Foundation.Intervals` speaks about such histories in
general; here ticks are the cuts and receives the marks, and five unmarked intervals in a
row make a snapshot stale, as far as the `i32` of the counter goes.

The channel to the aggregator holds the accepted events that were not received yet, in
order (`queue_eq_drop`), so that an event waits at a tick exactly when the run has accepted
more than it has received.  The equivalence at the end puts the two together.
-/

namespace DaemonChoir.Conductor

open DaemonChoir.Common DaemonChoir.Foundation

namespace Ingest

section Visits

variable {ι F : Type}

/-- The interval fires. -/
def ticked : Ingest ι F × IngestLabel ι → Bool
  | (_, .tick _ _) => true
  | _ => false

/-- The aggregator receives an event. -/
def receivedEvent : Ingest ι F × IngestLabel ι → Bool
  | (ingest, .aggregate) => !ingest.aggEvents.queue.isEmpty
  | _ => false

/-- The event that is accepted into the channel to the aggregator. -/
def accepted : Ingest ι F × IngestLabel ι → Option RawEvent
  | (ingest, .forward) =>
      match ingest.consumer with
      | .forwarding event =>
          match ingest.aggEvents.trySend event with
          | (.ok, _) => some event
          | _ => none
      | _ => none
  | _ => none

/-- An event is accepted into the channel to the aggregator. -/
def acceptedEvent (visit : Ingest ι F × IngestLabel ι) : Bool :=
  (accepted visit).isSome

/-- The visit is a tick whose snapshot is marked stale. -/
def EmitsStale [Float64 F] (visit : Ingest ι F × IngestLabel ι) : Prop :=
  ∃ nowUs mapper next snapshot, visit.2 = .tick nowUs mapper ∧
    visit.1.aggregator.tick nowUs visit.1.cumulativeLostEvents = some (next, snapshot) ∧
      snapshot.stale = true

theorem receivedEvent_of_ticked (visit : Ingest ι F × IngestLabel ι)
    (h : ticked visit = true) : receivedEvent visit = false := by
  obtain ⟨ingest, label⟩ := visit
  cases label with
  | tick nowUs mapper => rfl
  | _ => cases h

theorem length_filterMap_accepted (trace : List (Ingest ι F × IngestLabel ι)) :
    (trace.filterMap accepted).length = trace.countP acceptedEvent :=
  List.length_filterMap_eq_countP ..

end Visits

section Steps

variable {ι F : Type} {ingest next : Ingest ι F}

/-! ## The channel to the aggregator -/

theorem forward_queue (h : ingest.forward = some next) :
    next.aggEvents.queue =
      ingest.aggEvents.queue ++ (accepted (ingest, .forward)).toList := by
  obtain ⟨event, answer, after, hconsumer, hsend, hcases⟩ := forward_cases h
  simp only [accepted, hconsumer, hsend]
  rcases hcases with ⟨hanswer, rfl⟩ | ⟨rfl, rfl⟩
  · rcases Channel.trySend_cases hsend with
      ⟨rfl, _, _, hqueue, _⟩ | ⟨rfl, _, _, rfl⟩ | ⟨hclosed, _⟩
    · exact hqueue
    · simp
    · exact absurd hclosed hanswer
  · rcases Channel.trySend_cases hsend with ⟨hok, _⟩ | ⟨hfull, _⟩ | ⟨_, _, rfl⟩
    · cases hok
    · cases hfull
    · simp

theorem aggregate_queue (h : ingest.aggregate = some next) :
    next.aggEvents.queue =
      ingest.aggEvents.queue.drop (receivedEvent (ingest, (.aggregate : IngestLabel ι))).toNat ∧
    (receivedEvent (ingest, (.aggregate : IngestLabel ι))).toNat ≤
      ingest.aggEvents.queue.length := by
  obtain ⟨_, ⟨event, rest, hrecv, rfl⟩ | ⟨hrecv, rfl⟩⟩ := aggregate_cases h
  · obtain ⟨hqueue, _⟩ := Channel.recv_item hrecv
    simp [receivedEvent, hqueue]
  · simp [receivedEvent, Channel.recv_ended hrecv]

theorem receive_keeps (h : ingest.receive = some next) :
    next.aggEvents.queue = ingest.aggEvents.queue ∧ next.aggregator = ingest.aggregator ∧
      next.aggregating = ingest.aggregating := by
  obtain ⟨_, ⟨_, _, _, rfl⟩ | ⟨_, rfl⟩⟩ := receive_cases h
  · exact ⟨rfl, rfl, rfl⟩
  · exact ⟨rfl, rfl, rfl⟩

theorem send_keeps [DecidableEq ι] {probe : ι} (h : ingest.send probe = some next) :
    next.aggEvents = ingest.aggEvents ∧ next.aggregator = ingest.aggregator ∧
      next.aggregating = ingest.aggregating := by
  obtain ⟨_, _, _, _, _, rfl⟩ := send_cases h
  exact ⟨rfl, rfl, rfl⟩

theorem forward_keeps (h : ingest.forward = some next) :
    next.aggregator = ingest.aggregator ∧ next.aggregating = ingest.aggregating := by
  obtain ⟨_, _, _, _, _, ⟨_, rfl⟩ | ⟨_, rfl⟩⟩ := forward_cases h
  · exact ⟨rfl, rfl⟩
  · exact ⟨rfl, rfl⟩

theorem tick_spec [Float64 F] {nowUs : UInt64} {mapper : TrySend}
    (h : ingest.tick nowUs mapper = some next) :
    ingest.aggregating = true ∧ next.aggEvents.queue = ingest.aggEvents.queue ∧
      (next.aggregating = true → next.aggregator = ingest.aggregator.advance) := by
  obtain ⟨hrunning, ⟨_, rfl⟩ | ⟨_, rfl⟩⟩ := tick_cases h
  · exact ⟨hrunning, rfl, fun hstill => by cases hstill⟩
  · exact ⟨hrunning, rfl, fun _ => rfl⟩

theorem emitsStale_iff [Float64 F] (ingest : Ingest ι F) (nowUs : UInt64) (mapper : TrySend) :
    EmitsStale (ingest, .tick nowUs mapper) ↔ 5 ≤ ingest.aggregator.countEmpty := by
  obtain ⟨metrics, _, htick⟩ := ingest.aggregator.tick_eq nowUs ingest.cumulativeLostEvents
  constructor
  · intro hstale
    obtain ⟨_, _, next, snapshot, hlabel, hsome, hflag⟩ := hstale
    obtain ⟨rfl, rfl⟩ := IngestLabel.tick.inj hlabel
    rw [htick] at hsome
    obtain ⟨_, rfl⟩ := Prod.mk.inj (Option.some.inj hsome)
    exact of_decide_eq_true hflag
  · intro hfive
    exact ⟨nowUs, mapper, _, _, rfl, htick, decide_eq_true hfive⟩

theorem aggregate_spec (h : ingest.aggregate = some next) (hnext : next.aggregating = true) :
    ingest.aggregating = true ∧ receivedEvent (ingest, (.aggregate : IngestLabel ι)) = true ∧
      ∃ event, next.aggregator = ingest.aggregator.push event := by
  obtain ⟨hrunning, ⟨event, rest, hrecv, rfl⟩ | ⟨_, rfl⟩⟩ := aggregate_cases h
  · obtain ⟨hqueue, _⟩ := Channel.recv_item hrecv
    exact ⟨hrunning, by simp [receivedEvent, hqueue], event, rfl⟩
  · cases hnext

end Steps

/-! ## Runs -/

section Runs

variable {ι F : Type} [DecidableEq ι] [Float64 F] {kinds : ι → ProbeKind}
  {windowMs : UInt64}

/-- A step adds what it accepts at one end of the channel and takes what it receives
from the other. -/
theorem step_queue {ingest next : Ingest ι F} {label : IngestLabel ι}
    (taken : ingest.step label = some next) :
    next.aggEvents.queue =
        (ingest.aggEvents.queue ++ (accepted (ingest, label)).toList).drop
          (receivedEvent (ingest, label)).toNat ∧
      (receivedEvent (ingest, label)).toNat ≤ ingest.aggEvents.queue.length := by
  cases label with
  | generate probe event =>
      obtain ⟨task, _, rfl⟩ := Option.map_eq_some_iff.mp taken
      simp [setProbe, accepted, receivedEvent]
  | send probe => simp [(send_keeps taken).1, accepted, receivedEvent]
  | account probe =>
      obtain ⟨_, _, rfl⟩ := Option.map_eq_some_iff.mp taken
      simp [setProbe, accepted, receivedEvent]
  | leave probe =>
      obtain ⟨task, _, rfl⟩ := Option.map_eq_some_iff.mp taken
      simp [setProbe, accepted, receivedEvent]
  | shutdown =>
      cases taken
      simp [accepted, receivedEvent]
  | receive => simp [(receive_keeps taken).1, accepted, receivedEvent]
  | forward => simp [forward_queue taken, receivedEvent]
  | aggregate => simpa [accepted] using aggregate_queue taken
  | tick nowUs mapper => simp [(tick_spec taken).2.1, accepted, receivedEvent]

/-- The channel holds the accepted events in order, without the first ones, which were
received. -/
theorem queue_eq_drop {start final : Ingest ι F}
    {trace : List (Ingest ι F × IngestLabel ι)} (run : Run step start trace final)
    (hstart : start.aggEvents.queue = []) :
    final.aggEvents.queue = (trace.filterMap accepted).drop (trace.countP receivedEvent) ∧
      trace.countP receivedEvent ≤ (trace.filterMap accepted).length := by
  induction run with
  | nil => simp [hstart]
  | @snoc trace ingest next label _ taken ih =>
      obtain ⟨hqueue, hcount⟩ := ih
      obtain ⟨hnext, hreceived⟩ := step_queue taken
      have hfilter : (trace ++ [(ingest, label)]).filterMap accepted =
          trace.filterMap accepted ++ (accepted (ingest, label)).toList := by
        rw [List.filterMap_append]
        cases haccepted : accepted (ingest, label) <;> simp [haccepted]
      rw [countP_append_singleton, hfilter]
      rw [hqueue, List.length_drop] at hreceived
      refine ⟨?_, ?_⟩
      · rw [hnext, hqueue, ← List.drop_append_of_le_length hcount, List.drop_drop]
      · rw [List.length_append]
        omega

/-- Only a receive and a tick of the aggregator concern its loop. -/
theorem step_keeps {ingest next : Ingest ι F} {label : IngestLabel ι}
    (taken : ingest.step label = some next) (hreceive : label ≠ .aggregate)
    (htick : ∀ nowUs mapper, label ≠ .tick nowUs mapper) :
    next.aggregator = ingest.aggregator ∧ next.aggregating = ingest.aggregating := by
  cases label with
  | generate probe event =>
      obtain ⟨task, _, rfl⟩ := Option.map_eq_some_iff.mp taken
      exact ⟨rfl, rfl⟩
  | send probe => exact (send_keeps taken).2
  | account probe =>
      obtain ⟨_, _, rfl⟩ := Option.map_eq_some_iff.mp taken
      exact ⟨rfl, rfl⟩
  | leave probe =>
      obtain ⟨task, _, rfl⟩ := Option.map_eq_some_iff.mp taken
      exact ⟨rfl, rfl⟩
  | shutdown =>
      cases taken
      exact ⟨rfl, rfl⟩
  | receive => exact (receive_keeps taken).2
  | forward => exact forward_keeps taken
  | aggregate => exact absurd rfl hreceive
  | tick nowUs mapper => exact absurd rfl (htick nowUs mapper)

/-- The counter of the loop and its window follow the history of ticks and receives. -/
structure Follows (trace : List (Ingest ι F × IngestLabel ι)) (ingest : Ingest ι F) : Prop where
  counter : ingest.aggregator.consecutiveEmptyWindows =
    Int32.ofNat (quietCount ticked receivedEvent trace).closed
  window : ingest.aggregator.currentWindowEvents.isEmpty =
    (quietCount ticked receivedEvent trace).openQuiet

theorem follows_of_run {trace : List (Ingest ι F × IngestLabel ι)} {final : Ingest ι F}
    (run : Run step (started kinds windowMs) trace final)
    (hrunning : final.aggregating = true) : Follows trace final := by
  induction run with
  | nil => exact ⟨rfl, rfl⟩
  | @snoc trace ingest next label _ taken ih =>
      have hother : label ≠ .aggregate → (∀ nowUs mapper, label ≠ .tick nowUs mapper) →
          Follows (trace ++ [(ingest, label)]) next := by
        intro hreceive htick
        obtain ⟨haggregator, haggregating⟩ := step_keeps taken hreceive htick
        obtain ⟨hcounter, hwindow⟩ := ih (haggregating ▸ hrunning)
        have hfollow : quietCount ticked receivedEvent (trace ++ [(ingest, label)]) =
            quietCount ticked receivedEvent trace := by
          rw [quietCount_append_singleton]
          cases label with
          | aggregate => exact absurd rfl hreceive
          | tick nowUs mapper => exact absurd rfl (htick nowUs mapper)
          | _ => rfl
        exact ⟨by rw [haggregator, hfollow, hcounter], by rw [haggregator, hfollow, hwindow]⟩
      cases label with
      | aggregate =>
          obtain ⟨hbefore, hreceived, event, hpush⟩ := aggregate_spec taken hrunning
          obtain ⟨hcounter, _⟩ := ih hbefore
          have hfollow : quietCount ticked receivedEvent (trace ++ [(ingest, .aggregate)]) =
              { quietCount ticked receivedEvent trace with openQuiet := false } := by
            rw [quietCount_append_singleton, QuietCount.follow, if_neg (by simp [ticked]),
              if_pos hreceived]
          refine ⟨?_, ?_⟩
          · rw [hpush, hfollow]
            exact hcounter
          · rw [hpush, hfollow, Aggregator.push]
            simp
      | tick nowUs mapper =>
          obtain ⟨hbefore, _, hadvance⟩ := tick_spec taken
          obtain ⟨hcounter, hwindow⟩ := ih hbefore
          have hfollow :
              quietCount ticked receivedEvent (trace ++ [(ingest, .tick nowUs mapper)]) =
                (quietCount ticked receivedEvent trace).follow ticked receivedEvent
                  (ingest, .tick nowUs mapper) :=
            quietCount_append_singleton ..
          have hticked : ticked (ingest, IngestLabel.tick nowUs mapper) = true := rfl
          rw [QuietCount.follow, if_pos hticked] at hfollow
          refine ⟨?_, ?_⟩
          · rw [hadvance hrunning, hfollow, Aggregator.advance, Aggregator.countEmpty,
              hwindow, hcounter]
            cases (quietCount ticked receivedEvent trace).openQuiet with
            | false => rfl
            | true => rw [if_pos rfl, if_pos rfl, Int32.ofNat_add]; rfl
          · rw [hadvance hrunning, hfollow]
            rfl
      | _ => exact hother (by simp) (by simp)

/-! ## Stale snapshots -/

/-- The flag of a tick, by the history of ticks and receives. -/
theorem emitsStale_iff_quietCount {trace : List (Ingest ι F × IngestLabel ι)}
    {visit : Ingest ι F × IngestLabel ι} {next : Ingest ι F}
    (run : Run step (started kinds windowMs) trace visit.1)
    (taken : visit.1.step visit.2 = some next) (hticked : ticked visit = true) :
    EmitsStale visit ↔
      (quietCount ticked receivedEvent trace).openQuiet = true ∧
        5 ≤ ((quietCount ticked receivedEvent trace).closed + 1) % 2 ^ 32 ∧
          ((quietCount ticked receivedEvent trace).closed + 1) % 2 ^ 32 < 2 ^ 31 := by
  obtain ⟨ingest, label⟩ := visit
  cases label with
  | tick nowUs mapper =>
      obtain ⟨hrunning, _⟩ := tick_spec taken
      obtain ⟨hcounter, hwindow⟩ := follows_of_run run hrunning
      rw [emitsStale_iff, Aggregator.countEmpty, hcounter, hwindow]
      cases (quietCount ticked receivedEvent trace).openQuiet with
      | false => simp
      | true =>
          have hcount := Aggregator.five_le_int32_iff
            ((quietCount ticked receivedEvent trace).closed + 1)
          rw [Int32.ofNat_add] at hcount
          simpa using hcount
  | _ => cases hticked

theorem quiet_of_emitsStale {trace : List (Ingest ι F × IngestLabel ι)}
    {visit : Ingest ι F × IngestLabel ι} {next : Ingest ι F}
    (run : Run step (started kinds windowMs) trace visit.1)
    (taken : visit.1.step visit.2 = some next) (hstale : EmitsStale visit) :
    ticked visit = true ∧ Quiet ticked receivedEvent 4 trace := by
  have hticked : ticked visit = true := by
    obtain ⟨_, _, _, _, hlabel, _⟩ := hstale
    rw [show visit = (visit.1, visit.2) from rfl, hlabel]
    rfl
  obtain ⟨hopen, hcount, _⟩ := (emitsStale_iff_quietCount run taken hticked).mp hstale
  refine ⟨hticked, ?_⟩
  rw [quiet_iff ticked receivedEvent receivedEvent_of_ticked]
  refine ⟨hopen, ?_⟩
  have hmod := Nat.mod_le ((quietCount ticked receivedEvent trace).closed + 1) (2 ^ 32)
  omega

/-- A snapshot that ends five windows without a receive and is not stale ends six: the
counter has wrapped. -/
theorem quiet_five_of_not_emitsStale {trace : List (Ingest ι F × IngestLabel ι)}
    {visit : Ingest ι F × IngestLabel ι} {next : Ingest ι F}
    (run : Run step (started kinds windowMs) trace visit.1)
    (taken : visit.1.step visit.2 = some next) (hticked : ticked visit = true)
    (hquiet : Quiet ticked receivedEvent 4 trace) (hnot : ¬ EmitsStale visit) :
    Quiet ticked receivedEvent 5 trace := by
  rw [quiet_iff ticked receivedEvent receivedEvent_of_ticked] at hquiet ⊢
  obtain ⟨hopen, hfour⟩ := hquiet
  refine ⟨hopen, ?_⟩
  by_contra hlt
  refine hnot ((emitsStale_iff_quietCount run taken hticked).mpr ⟨hopen, ?_⟩)
  have hclosed : (quietCount ticked receivedEvent trace).closed = 4 := by omega
  rw [hclosed]
  decide

/-! ## Events that wait -/

/-- The events are received in the order in which they were accepted: the one accepted
at the visit is still in the channel when at most as many have been received as had been
accepted before it. -/
def Unread (front : List (Ingest ι F × IngestLabel ι)) (accept : Ingest ι F × IngestLabel ι)
    (later : List (Ingest ι F × IngestLabel ι)) : Prop :=
  (front ++ accept :: later).countP receivedEvent ≤ front.countP acceptedEvent

/-- No snapshot is marked stale while an event accepted at least five ticks earlier is
unread. -/
def NoStaleOverWaiting (trace : List (Ingest ι F × IngestLabel ι)) : Prop :=
  ∀ front accept later visit back, trace = front ++ accept :: later ++ visit :: back →
    acceptedEvent accept = true → Unread front accept later →
      5 ≤ later.countP ticked + 1 → ¬ EmitsStale visit

/-- Five consecutive windows without a receive had no arrival either. -/
def EmptyWindowsQuiet (trace : List (Ingest ι F × IngestLabel ι)) : Prop :=
  ∀ front recent visit back, trace = front ++ recent ++ visit :: back →
    Opens ticked front → recent.countP ticked = 4 → ticked visit = true →
      (∀ earlier ∈ recent, receivedEvent earlier = false) →
        ∀ earlier ∈ recent, acceptedEvent earlier = false

/-- Every tick that ends five windows without a receive finds the channel empty. -/
def DrainedAtFifthTick (trace : List (Ingest ι F × IngestLabel ι)) : Prop :=
  ∀ front visit back, trace = front ++ visit :: back → ticked visit = true →
    Quiet ticked receivedEvent 4 front → visit.1.aggEvents.queue = []

section Waiting

variable {trace : List (Ingest ι F × IngestLabel ι)} {final : Ingest ι F}

theorem queue_eq_nil_iff (run : Run step (started kinds windowMs) trace final) :
    final.aggEvents.queue = [] ↔
      trace.countP acceptedEvent ≤ trace.countP receivedEvent := by
  obtain ⟨hqueue, _⟩ := queue_eq_drop run rfl
  rw [hqueue, List.drop_eq_nil_iff, length_filterMap_accepted]

theorem exists_unread (run : Run step (started kinds windowMs) trace final)
    (hwaiting : final.aggEvents.queue ≠ []) :
    ∃ front accept later, trace = front ++ accept :: later ∧
      acceptedEvent accept = true ∧ Unread front accept later := by
  have hlt : trace.countP receivedEvent < trace.countP acceptedEvent :=
    Nat.lt_of_not_le fun hle => hwaiting ((queue_eq_nil_iff run).mpr hle)
  obtain ⟨front, accept, later, rfl, haccepted, hlater⟩ :=
    exists_last (Nat.zero_lt_of_lt hlt)
  refine ⟨front, accept, later, rfl, haccepted, ?_⟩
  rw [List.countP_append (p := acceptedEvent), List.countP_cons_of_pos haccepted, hlater] at hlt
  exact Nat.le_of_lt_succ hlt

theorem queue_ne_nil_of_unread {front between after : List (Ingest ι F × IngestLabel ι)}
    {accept : Ingest ι F × IngestLabel ι}
    (run : Run step (started kinds windowMs) (front ++ accept :: between) final)
    (haccepted : acceptedEvent accept = true)
    (hunread : Unread front accept (between ++ after)) :
    final.aggEvents.queue ≠ [] := by
  intro hempty
  have hcount := (queue_eq_nil_iff run).mp hempty
  rw [List.countP_append (p := acceptedEvent), List.countP_cons_of_pos haccepted] at hcount
  rw [Unread, ← List.cons_append, ← List.append_assoc, List.countP_append] at hunread
  omega

omit [DecidableEq ι] [Float64 F] in
theorem drained_of_all
    (h : trace.all (fun visit => !ticked visit || visit.1.aggEvents.queue.isEmpty) = true) :
    DrainedAtFifthTick trace := by
  intro front visit back hsplit hticked _
  have hvisit := List.all_eq_true.mp h visit (by simp [hsplit])
  simpa [hticked] using hvisit

theorem noStaleOverWaiting_of_drained
    (run : Run step (started kinds windowMs) trace final)
    (hdrained : DrainedAtFifthTick trace) : NoStaleOverWaiting trace := by
  intro front accept later visit back hsplit haccepted hunread _ hstale
  subst hsplit
  obtain ⟨hbefore, next, taken, _⟩ := run.at_visit
  obtain ⟨hticked, hquiet⟩ := quiet_of_emitsStale hbefore taken hstale
  have hempty := hdrained (front ++ accept :: later) visit back rfl hticked hquiet
  rw [← List.append_nil later] at hunread
  exact queue_ne_nil_of_unread hbefore haccepted hunread hempty

theorem emptyWindowsQuiet_of_drained
    (run : Run step (started kinds windowMs) trace final)
    (hdrained : DrainedAtFifthTick trace) : EmptyWindowsQuiet trace := by
  intro front recent visit back hsplit hopens hcount hticked hsilent
  subst hsplit
  obtain ⟨hbefore, _⟩ := run.at_visit
  obtain ⟨middle, hfront, _⟩ := hbefore.split
  have hempty := hdrained (front ++ recent) visit back rfl hticked
    ⟨front, recent, rfl, hopens, hcount, hsilent⟩
  have hreceived : recent.countP receivedEvent = 0 :=
    List.countP_eq_zero.mpr fun earlier hmem => by simp [hsilent earlier hmem]
  have hall := (queue_eq_nil_iff hbefore).mp hempty
  have hearlier := (queue_eq_drop hfront rfl).2
  rw [length_filterMap_accepted] at hearlier
  rw [List.countP_append, List.countP_append, hreceived] at hall
  have hnone : recent.countP acceptedEvent = 0 := by omega
  intro earlier hmem
  exact Bool.eq_false_iff.mpr (List.countP_eq_zero.mp hnone earlier hmem)

omit [DecidableEq ι] [Float64 F] in
/-- Without arrivals in empty windows an event that waits at the fifth tick was accepted
before them. -/
theorem accepted_before_of_quiet {front later back : List (Ingest ι F × IngestLabel ι)}
    {accept visit : Ingest ι F × IngestLabel ι}
    (hwindows : EmptyWindowsQuiet (front ++ accept :: later ++ visit :: back))
    (haccepted : acceptedEvent accept = true) (hticked : ticked visit = true)
    (hquiet : Quiet ticked receivedEvent 4 (front ++ accept :: later)) :
    4 ≤ later.countP ticked := by
  obtain ⟨first, recent, hsplit, hopens, hcount, hsilent⟩ := hquiet
  rcases cons_split hsplit with ⟨before, rfl⟩ | ⟨between, _, rfl⟩
  · have hnone := hwindows first _ visit back (by rw [hsplit]) hopens hcount hticked hsilent
      accept (by simp)
    rw [haccepted] at hnone
    cases hnone
  · rw [List.countP_append, hcount]
    exact Nat.le_add_left ..

/-- The channel is drained at the fifth tick when neither part of the promise fails before:
by induction on the place of the tick, since a tick that is not stale after five empty
windows has another one before it. -/
theorem drained_of_promise (run : Run step (started kinds windowMs) trace final)
    (hstale : NoStaleOverWaiting trace) (hwindows : EmptyWindowsQuiet trace) :
    DrainedAtFifthTick trace := by
  intro front
  generalize hlength : front.length = length
  induction length using Nat.strong_induction_on generalizing front with
  | h length ih =>
      intro visit back hsplit hticked hquiet
      by_contra hwaiting
      subst hsplit
      obtain ⟨hbefore, next, taken, _⟩ := run.at_visit
      obtain ⟨first, accept, later, rfl, haccepted, hunread⟩ := exists_unread hbefore hwaiting
      have hlater := accepted_before_of_quiet hwindows haccepted hticked hquiet
      have hnot := hstale first accept later visit back rfl haccepted hunread (by omega)
      obtain ⟨earlier, last, rest, hcut, hlast, hfour, hrest⟩ :=
        (quiet_five_of_not_emitsStale hbefore taken hticked hquiet hnot).exists_cut
      rcases cons_split hcut with ⟨before, hsecond⟩ | ⟨between, rfl, rfl⟩
      · -- the last cut would lie before the event, and four ticks after it
        have hcount := congrArg (List.countP ticked) hsecond
        rw [List.countP_cons_of_pos hlast, hrest, List.countP_append, List.countP_cons] at hcount
        omega
      · rw [hcut] at hbefore
        have hshort : (first ++ accept :: between).length < length := by
          have hall := congrArg List.length hcut
          rw [hlength, List.length_append, List.length_cons] at hall
          omega
        refine queue_ne_nil_of_unread hbefore.at_visit.1 haccepted hunread ?_
        exact ih _ hshort _ rfl last (rest ++ visit :: back) (by rw [hcut]; simp) hlast hfour

/-- In every run, no snapshot is stale over an event that waits since five ticks and five
empty windows had no arrivals, exactly when every tick that ends five windows without a
receive finds the channel empty. -/
theorem staleness_iff (run : Run step (started kinds windowMs) trace final) :
    (NoStaleOverWaiting trace ∧ EmptyWindowsQuiet trace) ↔ DrainedAtFifthTick trace := by
  constructor
  · intro hpromise
    exact drained_of_promise run hpromise.1 hpromise.2
  · intro hdrained
    exact ⟨noStaleOverWaiting_of_drained run hdrained,
      emptyWindowsQuiet_of_drained run hdrained⟩

end Waiting

end Runs

/-! ## Two runs -/

/-- Five windows in a burst. -/
def fiveTicks : List (IngestLabel Unit) := List.replicate 5 (.tick 0 .ok)

/-- One event is received, and the six windows after it end with a stale snapshot. -/
theorem staleness_iff_received :
    ∃ (trace : List (Ingest Unit ℚ × IngestLabel Unit)) (final : Ingest Unit ℚ),
      Run step (started (fun _ => .simulated) 50) trace final ∧
        trace.countP acceptedEvent = 1 ∧ (∃ visit ∈ trace, EmitsStale visit) ∧
          NoStaleOverWaiting trace ∧ EmptyWindowsQuiet trace := by
  have run : Run step (started (fun _ => .simulated) 50 : Ingest Unit ℚ) _ _ :=
    execute_sound (oneEvent ++ .aggregate :: .tick 0 .ok :: fiveTicks) rfl
  refine ⟨_, _, run, rfl, ⟨_, List.mem_of_getElem? (i := 12) rfl, ?_⟩,
    (staleness_iff run).mpr ?_⟩
  · exact (emitsStale_iff _ _ _).mpr (by decide)
  · exact drained_of_all rfl

/-- An event waits in the channel while five windows end in a burst: the fifth snapshot is
marked stale. -/
theorem staleness_not_honest :
    ¬ ∀ (trace : List (Ingest Unit ℚ × IngestLabel Unit)) (final : Ingest Unit ℚ),
        Run step (started (fun _ => .simulated) 50) trace final →
          NoStaleOverWaiting trace ∧ EmptyWindowsQuiet trace := by
  intro hclaim
  have run : Run step (started (fun _ => .simulated) 50 : Ingest Unit ℚ) _ _ :=
    execute_sound (oneEvent ++ fiveTicks) rfl
  obtain ⟨hstale, _⟩ := hclaim _ _ run
  have hnot := hstale [_, _, _, _, _] _ [_, _, _, _] _ [] rfl rfl (by unfold Unread; decide)
    (by decide)
  exact hnot ((emitsStale_iff _ _ _).mpr (by decide))

end Ingest

end DaemonChoir.Conductor
