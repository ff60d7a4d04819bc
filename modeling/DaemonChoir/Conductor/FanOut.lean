import DaemonChoir.Conductor.Dispatch
import DaemonChoir.Conductor.OscOutput
set_option autoImplicit false

/-!
# Conductor: the fan-out to the backends

A frame is sent to one backend after another, and what the network makes of one packet
changes nothing about the next.

A frame is a parameter list taken together with the backends that were in force, and its
packet.  The loop over the backends makes three steps for each of them: the total is
counted, the packet is sent, and a success is counted.  Whatever the network answers, the
loop goes on with the next backend, so that every frame is offered to each of its backends
once, in order, and both counters say how far it has come.

Two runs whose frames are the same and whose answers differ for one backend only send the
same bytes to all others; that such runs exist is proved by building them
(`exists_run_frames`).  The loop is that of `Dispatch`, by itself; in every run of all
tasks it is the dispatcher's part of the run, so what is proved of the loop holds there.
The last section ties a dispatched bundle to its sends.
-/

namespace DaemonChoir.Conductor

open DaemonChoir.Common DaemonChoir.Foundation

/-! ## What a run does -/

namespace Dispatch

/-- A frame on its way to the backends in force. -/
structure Frame (F : Type) where
  params : List (MappedParam F)
  backends : List OscBackendConfig
  now : SystemTime

/-- A call of `send_to`. -/
structure Attempt where
  packet : List UInt8
  backend : OscBackendConfig
  ok : Bool
  deriving DecidableEq, Repr

/-- A frame with the outcome of each of its sends. -/
structure Sending (F : Type) where
  params : List (MappedParam F)
  sends : List (OscBackendConfig × Bool)
  now : SystemTime

/-- The frame without the outcomes. -/
def Sending.frame {F : Type} (sending : Sending F) : Frame F :=
  ⟨sending.params, sending.sends.map Prod.fst, sending.now⟩

/-- What is sent, and to whom. -/
abbrev Offer : Type := List UInt8 × OscBackendConfig

/-- The attempt without its outcome. -/
def Attempt.offer (attempt : Attempt) : Offer := (attempt.packet, attempt.backend)

/-- The packets that arrive at a backend. -/
def arrivals (backend : OscBackendConfig) (attempts : List Attempt) : List (List UInt8) :=
  (attempts.filter fun attempt =>
    decide (attempt.backend = backend) && attempt.ok).map Attempt.packet

/-- The outcomes of the sends to a backend. -/
def outcomes (backend : OscBackendConfig) (attempts : List Attempt) : List Bool :=
  (attempts.filter fun attempt => decide (attempt.backend = backend)).map Attempt.ok

/-- The same sends but for their outcomes, so that a single send and a single backend are
affected by their own outcomes only. -/
structure SameSends (left right : List Attempt) : Prop where
  offers : left.map Attempt.offer = right.map Attempt.offer
  send : ∀ place : ℕ, left[place]?.map Attempt.ok = right[place]?.map Attempt.ok →
    left[place]? = right[place]?
  backend : ∀ backend, outcomes backend left = outcomes backend right →
    arrivals backend left = arrivals backend right

theorem Attempt.eq_of_offer {left right : Attempt} (hoffer : left.offer = right.offer)
    (hok : left.ok = right.ok) : left = right := by
  cases left
  cases right
  obtain ⟨hpacket, hbackend⟩ := Prod.mk.inj hoffer
  rw [Attempt.mk.injEq]
  exact ⟨hpacket, hbackend, hok⟩

/-- The outcomes of a backend decide what arrives there. -/
theorem arrivals_eq_of_outcomes {backend : OscBackendConfig} {left right : List Attempt}
    (hoffers : left.map Attempt.offer = right.map Attempt.offer)
    (houtcomes : outcomes backend left = outcomes backend right) :
    arrivals backend left = arrivals backend right := by
  induction left generalizing right with
  | nil => rw [List.map_eq_nil_iff.mp hoffers.symm]
  | cons attempt rest ih =>
      obtain ⟨other, others, rfl, hoffer, hothers⟩ := List.map_eq_cons_iff.mp hoffers.symm
      obtain ⟨hpacket, hbackend⟩ := Prod.mk.inj hoffer
      have hrest := ih hothers.symm
      simp only [outcomes, arrivals, List.filter_cons, hbackend] at houtcomes hrest ⊢
      by_cases hmine : attempt.backend = backend
      · simp only [hmine, decide_true, if_true, List.map_cons, List.cons.injEq,
          Bool.true_and] at houtcomes ⊢
        obtain ⟨hok, hlater⟩ := houtcomes
        rw [← hok]
        cases attempt.ok with
        | false => simpa using hrest hlater
        | true => simpa [hpacket] using hrest hlater
      · simp only [hmine, decide_false, Bool.false_eq_true, if_false,
          Bool.false_and] at houtcomes ⊢
        exact hrest houtcomes

theorem sameSends_of_offers {left right : List Attempt}
    (h : left.map Attempt.offer = right.map Attempt.offer) : SameSends left right where
  offers := h
  send := by
    intro place hok
    have hoffer := congrArg (fun offers : List Offer => offers[place]?) h
    simp only [List.getElem?_map] at hoffer
    cases hleft : left[place]? with
    | none =>
        rw [hleft, Option.map_none] at hoffer
        exact (Option.map_eq_none_iff.mp hoffer.symm).symm
    | some attempt =>
        rw [hleft, Option.map_some] at hoffer hok
        obtain ⟨other, hother, hsame⟩ := Option.map_eq_some_iff.mp hoffer.symm
        rw [hother, Option.map_some, Option.some_inj] at hok
        rw [hother, Attempt.eq_of_offer hsame.symm hok]
  backend := fun _ => arrivals_eq_of_outcomes h

section Visits

variable {F : Type}

/-- A frame that is not skipped for being empty. -/
def taken : Dispatch F × DispatchLabel F → Option (List (MappedParam F))
  | (_, .recv (some params)) => if params.item.isEmpty then none else some params.item
  | _ => none

/-- A frame for which the backends are read, with what the lock gives. -/
def looked : Dispatch F × DispatchLabel F →
    Option (List (MappedParam F) × Option (List OscBackendConfig))
  | (dispatch, .readBackends active) =>
      match dispatch.dispatcher with
      | .received params => some (params.item, active)
      | _ => none
  | _ => none

/-- A frame that is encoded. -/
def framed : Dispatch F × DispatchLabel F → Option (Frame F)
  | (dispatch, .stamp now) =>
      match dispatch.dispatcher with
      | .stamping params backends => some ⟨params.item, backends, now⟩
      | _ => none
  | _ => none

/-- A packet that is sent. -/
def attempted : Dispatch F × DispatchLabel F → Option Attempt
  | (dispatch, .sendTo ok) =>
      match dispatch.dispatcher with
      | .sending _ packet backend _ => some ⟨packet, backend, ok⟩
      | _ => none
  | _ => none

end Visits

end Dispatch

/-! ## What the dispatcher has at hand -/

namespace OscDispatcher

open Dispatch

variable {F : Type}

/-- A frame before the backends are read. -/
def unread : OscDispatcher F → List (List (MappedParam F))
  | .received params => [params.item]
  | _ => []

/-- A frame with its backends before it is encoded. -/
def unstamped : OscDispatcher F → List (List (MappedParam F) × List OscBackendConfig)
  | .stamping params backends => [(params.item, backends)]
  | _ => []

/-- The offers that are still to be made. -/
def unsent : OscDispatcher F → List Offer
  | .offering _ packet backends => backends.map fun backend => (packet, backend)
  | .sending _ packet backend rest => (backend :: rest).map fun backend => (packet, backend)
  | .crediting _ packet rest => rest.map fun backend => (packet, backend)
  | _ => []

/-- The send that is counted and not yet made. -/
def inProgress : OscDispatcher F → ℕ
  | .sending _ _ _ _ => 1
  | _ => 0

/-- The success that is not counted yet. -/
def uncredited : OscDispatcher F → ℕ
  | .crediting _ _ _ => 1
  | _ => 0

end OscDispatcher

namespace Dispatch

section FanOut

variable {F : Type} [Float64 F]

/-- The offers that a frame stands for: the one packet for each backend in order, or
nothing when it cannot be encoded. -/
def Frame.offers (encode : OscBundle F → Option (List UInt8)) (frame : Frame F) :
    List Offer :=
  match encode (oscBundle frame.params frame.now) with
  | none => []
  | some packet => frame.backends.map fun backend => (packet, backend)

/-- The sends of a frame with these outcomes. -/
def Sending.attempts (encode : OscBundle F → Option (List UInt8)) (sending : Sending F) :
    List Attempt :=
  match encode (oscBundle sending.params sending.now) with
  | none => []
  | some packet => sending.sends.map fun send => ⟨packet, send.1, send.2⟩

/-- The fan-out up to some state of the loop. -/
structure FannedOut (encode : OscBundle F → Option (List UInt8))
    (trace : List (Dispatch F × DispatchLabel F)) (final : Dispatch F) : Prop where
  /-- Every nonempty frame gets to the lock. -/
  looked : trace.filterMap taken =
    (trace.filterMap looked).map Prod.fst ++ final.dispatcher.unread
  /-- Every frame that finds a list in force gets to the encoder with that list. -/
  framed : ((trace.filterMap Dispatch.looked).filterMap fun frame =>
      frame.2.map fun backends => (frame.1, backends)) =
    (trace.filterMap framed).map (fun frame => (frame.params, frame.backends)) ++
      final.dispatcher.unstamped
  /-- Every encoded frame is offered once to each backend of its list, in order. -/
  offered : (trace.filterMap Dispatch.framed).flatMap (Frame.offers encode) =
    (trace.filterMap attempted).map Attempt.offer ++ final.dispatcher.unsent
  /-- `osc_dispatch_total` counts the sends. -/
  total : final.oscMetrics.oscDispatchTotal =
    UInt64.ofNat ((trace.filterMap attempted).length + final.dispatcher.inProgress)
  /-- `osc_dispatch_success_total` counts the successful ones. -/
  success : final.oscMetrics.oscDispatchSuccessTotal +
      UInt64.ofNat final.dispatcher.uncredited =
    UInt64.ofNat ((trace.filterMap attempted).countP Attempt.ok)

end FanOut

section Hands

variable {F : Type} [Float64 F] {encode : OscBundle F → Option (List UInt8)}
  {dispatch next : Dispatch F} {label : DispatchLabel F}

/-! ## The three hands -/

theorem Moves.unread (moves : Moves encode dispatch label next) :
    dispatch.dispatcher.unread ++ (taken (dispatch, label)).toList =
      ((looked (dispatch, label)).map Prod.fst).toList ++ next.dispatcher.unread := by
  cases moves with
  | recorded operation rest hdispatcher =>
      cases rest <;> simp [hdispatcher, OscDispatcher.unread, taken, looked]
  | _ => simp_all [OscDispatcher.unread, taken, looked]

theorem Moves.unstamped (moves : Moves encode dispatch label next) :
    dispatch.dispatcher.unstamped ++
        ((looked (dispatch, label)).bind fun frame =>
          frame.2.map fun backends => (frame.1, backends)).toList =
      ((framed (dispatch, label)).map fun frame => (frame.params, frame.backends)).toList ++
        next.dispatcher.unstamped := by
  cases moves with
  | recorded operation rest hdispatcher =>
      cases rest <;> simp [hdispatcher, OscDispatcher.unstamped, framed, looked]
  | _ => simp_all [OscDispatcher.unstamped, framed, looked]

theorem Moves.unsent (moves : Moves encode dispatch label next) :
    dispatch.dispatcher.unsent ++
        (framed (dispatch, label)).toList.flatMap (Frame.offers encode) =
      ((attempted (dispatch, label)).map Attempt.offer).toList ++
        next.dispatcher.unsent := by
  cases moves with
  | recorded operation rest hdispatcher =>
      cases rest <;> simp [hdispatcher, OscDispatcher.unsent, framed, attempted]
  | _ => simp_all [OscDispatcher.unsent, framed, attempted, Frame.offers, Attempt.offer]

/-! ## The two counters -/

theorem Moves.total (moves : Moves encode dispatch label next) {sends : ℕ}
    (h : dispatch.oscMetrics.oscDispatchTotal =
      UInt64.ofNat (sends + dispatch.dispatcher.inProgress)) :
    next.oscMetrics.oscDispatchTotal =
      UInt64.ofNat (sends + (attempted (dispatch, label)).toList.length +
        next.dispatcher.inProgress) := by
  cases moves with
  | recorded operation rest hdispatcher =>
      cases rest <;> simp_all [OscDispatcher.inProgress, attempted]
  | offered origin packet backend rest hdispatcher =>
      simp only [h, hdispatcher, OscDispatcher.inProgress, attempted, Option.toList_none,
        List.length_nil, Nat.add_zero, UInt64.ofNat_add]
      rfl
  | _ => simp_all [OscDispatcher.inProgress, attempted]

theorem Moves.success (moves : Moves encode dispatch label next) {successes : ℕ}
    (h : dispatch.oscMetrics.oscDispatchSuccessTotal +
        UInt64.ofNat dispatch.dispatcher.uncredited = UInt64.ofNat successes) :
    next.oscMetrics.oscDispatchSuccessTotal + UInt64.ofNat next.dispatcher.uncredited =
      UInt64.ofNat (successes + (attempted (dispatch, label)).toList.countP Attempt.ok) := by
  cases moves with
  | recorded operation rest hdispatcher =>
      cases rest <;> simp_all [OscDispatcher.uncredited, attempted]
  | _ => simp_all [OscDispatcher.uncredited, attempted, UInt64.ofNat_add]

end Hands

/-! ## Whole runs -/

section Runs

variable {F : Type} [Float64 F] {encode : OscBundle F → Option (List UInt8)}
  {trace other : List (Dispatch F × DispatchLabel F)} {final otherFinal : Dispatch F}

theorem total_of_run (run : Run (step encode) fresh trace final) :
    final.oscMetrics.oscDispatchTotal =
      UInt64.ofNat ((trace.filterMap attempted).length + final.dispatcher.inProgress) := by
  induction run with
  | nil => rfl
  | @snoc trace dispatch next label _ taken ih =>
      rw [(step_moves taken).total ih, List.filterMap_append, List.length_append,
        List.filterMap_eq_flatMap_toList attempted [_], List.flatMap_singleton]

theorem success_of_run (run : Run (step encode) fresh trace final) :
    final.oscMetrics.oscDispatchSuccessTotal + UInt64.ofNat final.dispatcher.uncredited =
      UInt64.ofNat ((trace.filterMap attempted).countP Attempt.ok) := by
  induction run with
  | nil => rfl
  | @snoc trace dispatch next label _ taken ih =>
      rw [(step_moves taken).success ih, List.filterMap_append, List.countP_append,
        List.filterMap_eq_flatMap_toList attempted [_], List.flatMap_singleton]

theorem offered_of_run (run : Run (step encode) fresh trace final) :
    (trace.filterMap framed).flatMap (Frame.offers encode) =
      (trace.filterMap attempted).map Attempt.offer ++ final.dispatcher.unsent := by
  rw [List.map_filterMap, List.filterMap_eq_flatMap_toList framed, List.flatMap_assoc,
    List.filterMap_eq_flatMap_toList fun visit => (attempted visit).map Attempt.offer]
  exact run.in_order (fun dispatch => dispatch.dispatcher.unsent)
    (fun visit => (framed visit).toList.flatMap (Frame.offers encode))
    (fun visit => ((attempted visit).map Attempt.offer).toList) rfl
    fun taken => (step_moves taken).unsent

/-- The fan-out of every run. -/
theorem fannedOut_of_run (run : Run (step encode) fresh trace final) :
    FannedOut encode trace final where
  looked := by
    rw [List.map_filterMap, List.filterMap_eq_flatMap_toList taken,
      List.filterMap_eq_flatMap_toList fun visit => (looked visit).map Prod.fst]
    exact run.in_order (fun dispatch => dispatch.dispatcher.unread)
      (fun visit => (taken visit).toList)
      (fun visit => ((looked visit).map Prod.fst).toList) rfl
      fun taken => (step_moves taken).unread
  framed := by
    rw [List.filterMap_filterMap, List.map_filterMap, List.filterMap_eq_flatMap_toList,
      List.filterMap_eq_flatMap_toList fun visit =>
        (framed visit).map fun frame => (frame.params, frame.backends)]
    exact run.in_order (fun dispatch => dispatch.dispatcher.unstamped)
      (fun visit => ((looked visit).bind fun frame =>
        frame.2.map fun backends => (frame.1, backends)).toList)
      (fun visit =>
        ((framed visit).map fun frame => (frame.params, frame.backends)).toList) rfl
      fun taken => (step_moves taken).unstamped
  offered := offered_of_run run
  total := total_of_run run
  success := success_of_run run

/-! ## Two runs -/

/-- Of two runs with the same frames, and as many sends, every send is the same but for its
outcome. -/
theorem offers_eq_of_length_eq (run : Run (step encode) fresh trace final)
    (otherRun : Run (step encode) fresh other otherFinal)
    (hframes : trace.filterMap framed = other.filterMap framed)
    (hlength : (trace.filterMap attempted).length = (other.filterMap attempted).length) :
    (trace.filterMap attempted).map Attempt.offer =
      (other.filterMap attempted).map Attempt.offer := by
  have hwhole := (offered_of_run run).symm.trans (hframes ▸ offered_of_run otherRun)
  exact (List.append_inj hwhole (by simpa using hlength)).1

/-! ## Every course of events -/

/-- The loop over the backends goes on to its end, whatever the outcomes. -/
theorem exists_run_offering (encode : OscBundle F → Option (List UInt8)) (origin : ℕ)
    (packet : List UInt8) (sends : List (OscBackendConfig × Bool)) (metrics : OscMetrics) :
    ∃ trace later,
      Run (step encode) ⟨.offering origin packet (sends.map Prod.fst), metrics⟩ trace
          ⟨.offering origin packet [], later⟩ ∧
        trace.filterMap framed = [] ∧
        trace.filterMap attempted = sends.map fun send => ⟨packet, send.1, send.2⟩ := by
  induction sends generalizing metrics with
  | nil => exact ⟨[], metrics, .nil, rfl, rfl⟩
  | cons send rest ih =>
      obtain ⟨backend, ok⟩ := send
      cases ok with
      | false =>
          have first : Run (step encode)
              ⟨.offering origin packet (backend :: rest.map Prod.fst), metrics⟩ _ _ :=
            execute_sound [.offer, .sendTo false] rfl
          obtain ⟨trace, later, run, hframed, hattempted⟩ := ih _
          exact ⟨_, later, first.append run, hframed, congrArg (List.cons _) hattempted⟩
      | true =>
          have first : Run (step encode)
              ⟨.offering origin packet (backend :: rest.map Prod.fst), metrics⟩ _ _ :=
            execute_sound [.offer, .sendTo true, .credit] rfl
          obtain ⟨trace, later, run, hframed, hattempted⟩ := ih _
          exact ⟨_, later, first.append run, hframed, congrArg (List.cons _) hattempted⟩

/-- A frame is handled to its end, whatever the outcomes. -/
theorem exists_run_frame (encode : OscBundle F → Option (List UInt8)) (sending : Sending F)
    (hfilled : sending.params ≠ []) (metrics : OscMetrics) :
    ∃ trace later,
      Run (step encode) ⟨.receiving, metrics⟩ trace ⟨.receiving, later⟩ ∧
        trace.filterMap framed = [sending.frame] ∧
        trace.filterMap attempted = sending.attempts encode := by
  have received : Run (step encode) ⟨.receiving, metrics⟩
      [(_, .recv (some ⟨0, sending.params⟩))] ⟨.received ⟨0, sending.params⟩, metrics⟩ :=
    Run.single (by simp [step, hfilled])
  have read : Run (step encode) ⟨.received ⟨0, sending.params⟩, metrics⟩ _
      ⟨.stamping ⟨0, sending.params⟩ (sending.sends.map Prod.fst), metrics⟩ :=
    execute_sound [.readBackends (some (sending.sends.map Prod.fst))] rfl
  cases hencode : encode (oscBundle sending.params sending.now) with
  | none =>
      have stamped : Run (step encode)
          ⟨.stamping ⟨0, sending.params⟩ (sending.sends.map Prod.fst), metrics⟩
          [(_, .stamp sending.now)] ⟨.receiving, metrics⟩ :=
        Run.single (by simp [step, hencode])
      refine ⟨_, metrics, (received.append read).append stamped, ?_, ?_⟩
      · rfl
      · rw [Sending.attempts, hencode]
        rfl
  | some packet =>
      have stamped : Run (step encode)
          ⟨.stamping ⟨0, sending.params⟩ (sending.sends.map Prod.fst), metrics⟩
          [(_, .stamp sending.now)]
          ⟨.offering 0 packet (sending.sends.map Prod.fst), metrics⟩ :=
        Run.single (by simp [step, hencode])
      obtain ⟨trace, later, offered, hframed, hattempted⟩ :=
        exists_run_offering encode 0 packet sending.sends metrics
      have finished : Run (step encode) ⟨.offering 0 packet [], later⟩ _ _ :=
        execute_sound [.readClock 0, .load 0] rfl
      have started := (received.append read).append stamped
      refine ⟨_, later, (started.append offered).append finished, ?_, ?_⟩
      · simp only [List.filterMap_append, hframed]
        rfl
      · simp only [List.filterMap_append, hattempted, Sending.attempts, hencode]
        exact List.append_nil _

/-- So is every sequence of frames. -/
theorem exists_run_frames (encode : OscBundle F → Option (List UInt8))
    (sendings : List (Sending F)) (hfilled : ∀ sending ∈ sendings, sending.params ≠ [])
    (metrics : OscMetrics) :
    ∃ trace later,
      Run (step encode) ⟨.receiving, metrics⟩ trace ⟨.receiving, later⟩ ∧
        trace.filterMap framed = sendings.map Sending.frame ∧
        trace.filterMap attempted = sendings.flatMap (Sending.attempts encode) := by
  induction sendings generalizing metrics with
  | nil => exact ⟨[], metrics, .nil, rfl, rfl⟩
  | cons sending rest ih =>
      obtain ⟨trace, middle, run, hframed, hattempted⟩ :=
        exists_run_frame encode sending (hfilled sending List.mem_cons_self) metrics
      obtain ⟨back, later, laterRun, hlaterFramed, hlaterAttempted⟩ :=
        ih (fun other hmem => hfilled other (List.mem_cons_of_mem _ hmem)) middle
      refine ⟨_, later, run.append laterRun, ?_, ?_⟩
      · rw [List.filterMap_append, hframed, hlaterFramed]
        rfl
      · rw [List.filterMap_append, hattempted, hlaterAttempted]
        rfl

/-- Every sequence of nonempty frames, with any list in force at each and any outcome of
each send, can be handled; in every run each frame goes once, in order and with the same
bytes, to each backend of its list, with both counters up to date; and of two runs with the
same frames every send is the same but for its outcome. -/
theorem fan_out_isolated (encode : OscBundle F → Option (List UInt8)) :
    (∀ sendings : List (Sending F), (∀ sending ∈ sendings, sending.params ≠ []) →
      ∃ trace later,
        Run (step encode) fresh trace ⟨.receiving, later⟩ ∧
          trace.filterMap framed = sendings.map Sending.frame ∧
          trace.filterMap attempted = sendings.flatMap (Sending.attempts encode)) ∧
      (∀ trace final, Run (step encode) fresh trace final → FannedOut encode trace final) ∧
      ∀ trace final other otherFinal,
        Run (step encode) fresh trace final → Run (step encode) fresh other otherFinal →
          trace.filterMap framed = other.filterMap framed →
            (trace.filterMap attempted).length = (other.filterMap attempted).length →
              SameSends (trace.filterMap attempted) (other.filterMap attempted) := by
  refine ⟨?_, ?_, ?_⟩
  · intro sendings hfilled
    exact exists_run_frames encode sendings hfilled ⟨0, 0⟩
  · intro trace final run
    exact fannedOut_of_run run
  · intro trace final other otherFinal run otherRun hframes hlength
    exact sameSends_of_offers (offers_eq_of_length_eq run otherRun hframes hlength)

end Runs

end Dispatch

/-! ## The loop among the other tasks -/

namespace Delivery

variable {F : Type} [Float64 F] [Libm F] {encode : OscBundle F → Option (List UInt8)}

/-- So what holds of the loop by itself holds in every run of all tasks. -/
theorem fannedOut_of_run {config : Config F}
    {trace : List (Delivery F × DeliveryLabel F)} {final : Delivery F}
    (run : Run (step encode) (started config) trace final) :
    Dispatch.FannedOut encode (Run.projectVisits dispatch dispatchLabel trace)
      final.dispatch :=
  Dispatch.fannedOut_of_run (run.projectedVisits dispatch_of_hidden dispatch_of_shown)

/-! ## Bundles and their sends -/

/-- A dispatched bundle, and what is to be sent of it. -/
def aimed (encode : OscBundle F → Option (List UInt8)) :
    Delivery F × DeliveryLabel F → Option (Tagged (OscBundle F) × List Dispatch.Offer)
  | (delivery, .stamp now) =>
      match delivery.dispatcher with
      | .stamping params backends =>
          (encode (oscBundle params.item now)).map fun packet =>
            (⟨params.origin, oscBundle params.item now⟩,
              backends.map fun backend => (packet, backend))
      | _ => none
  | _ => none

omit [Libm F] in
theorem aimed_fst (visit : Delivery F × DeliveryLabel F) :
    (aimed encode visit).map Prod.fst = dispatched encode visit := by
  obtain ⟨delivery, label⟩ := visit
  cases label with
  | stamp now =>
      cases hdispatcher : delivery.dispatcher with
      | stamping params backends =>
          cases hencode : encode (oscBundle params.item now) <;>
            simp [aimed, dispatched, bundled, hdispatcher, hencode, Option.filter]
      | _ => simp [aimed, dispatched, bundled, hdispatcher]
  | _ => rfl

omit [Libm F] in
theorem offers_of_aimed {visit : Delivery F × DeliveryLabel F}
    {bundle : Tagged (OscBundle F)} {offers : List Dispatch.Offer}
    (h : aimed encode visit = some (bundle, offers)) :
    ∃ packet params backends, encode bundle.item = some packet ∧
      visit.1.dispatcher = .stamping params backends ∧
      offers = backends.map fun backend => (packet, backend) := by
  unfold aimed at h
  split at h
  · rename_i delivery now
    split at h
    · rename_i params backends hdispatcher
      obtain ⟨packet, hpacket, hpair⟩ := Option.map_eq_some_iff.mp h
      obtain ⟨rfl, rfl⟩ := Prod.mk.inj hpair
      exact ⟨packet, params, backends, hpacket, hdispatcher, rfl⟩
    · cases h
  · cases h

omit [Libm F] in
theorem offers_of_visit (visit : Delivery F × DeliveryLabel F) :
    ((Run.projectVisits dispatch dispatchLabel [visit]).filterMap Dispatch.framed).flatMap
        (Dispatch.Frame.offers encode) =
      ((aimed encode visit).map Prod.snd).getD [] := by
  obtain ⟨delivery, label⟩ := visit
  cases label with
  | stamp now =>
      cases hdispatcher : delivery.dispatcher with
      | stamping params backends =>
          cases hencode : encode (oscBundle params.item now) <;>
            simp [Run.projectVisits, dispatchLabel, dispatch, Dispatch.framed, aimed,
              Dispatch.Frame.offers, hdispatcher, hencode]
      | _ =>
          simp [Run.projectVisits, dispatchLabel, dispatch, Dispatch.framed, aimed, hdispatcher]
  | receiveParams =>
      cases hrecv : delivery.mappedParams.recv <;>
        simp [Run.projectVisits, dispatchLabel, Dispatch.framed, aimed, hrecv]
  | _ => rfl

/-- The sends of a run, in order, are the offers of its dispatched bundles: each bundle is made
from one emission by one rule list, and its one packet goes once to each backend of the list
that the dispatcher has read. -/
theorem sends_of_dispatched {config : Config F}
    {trace : List (Delivery F × DeliveryLabel F)} {final : Delivery F}
    (run : Run (step encode) (started config) trace final) :
    (trace.filterMap (aimed encode)).map Prod.fst = trace.filterMap (dispatched encode) ∧
      (trace.filterMap (aimed encode)).flatMap Prod.snd =
        ((Run.projectVisits dispatch dispatchLabel trace).filterMap Dispatch.attempted).map
            Dispatch.Attempt.offer ++ final.dispatcher.unsent ∧
      ∀ front visit back bundle offers, trace = front ++ visit :: back →
        aimed encode visit = some (bundle, offers) →
          (∃ packet params backends, encode bundle.item = some packet ∧
            visit.1.dispatcher = .stamping params backends ∧
            offers = backends.map fun backend => (packet, backend)) ∧
          ∃ before emission between reading after snapshot,
            front = before ++ emission :: between ++ reading :: after ∧
              emitted emission = some ⟨bundle.origin, snapshot⟩ ∧
              IsBundle snapshot.metrics reading.1.cells.mappingRules.value bundle.item := by
  refine ⟨?_, ?_, ?_⟩
  · rw [List.map_filterMap]
    exact congrArg (fun f => trace.filterMap f) (funext aimed_fst)
  · refine Eq.trans ?_ (fannedOut_of_run run).offered
    clear run
    induction trace with
    | nil => rfl
    | cons visit rest ih =>
        have hsplit : Run.projectVisits dispatch dispatchLabel (visit :: rest) =
            Run.projectVisits dispatch dispatchLabel [visit] ++
              Run.projectVisits dispatch dispatchLabel rest := by
          rw [← List.singleton_append]
          exact List.filterMap_append
        rw [hsplit, List.filterMap_append, List.flatMap_append, offers_of_visit, ← ih,
          List.filterMap_cons]
        cases aimed encode visit <;> rfl
  · intro front visit back bundle offers hsplit haimed
    have hdispatched : dispatched encode visit = some bundle := by
      rw [← aimed_fst, haimed]
      rfl
    exact ⟨offers_of_aimed haimed, made_of_dispatched run hsplit hdispatched⟩

end Delivery

end DaemonChoir.Conductor
