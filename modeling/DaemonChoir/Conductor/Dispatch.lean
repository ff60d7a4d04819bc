import DaemonChoir.Conductor.Delivery
set_option autoImplicit false

/-!
# Conductor: the loop of the dispatcher

The dispatcher by itself: everything that comes from the other tasks, from the clock or
from the network is part of the label.  Among the other tasks it goes through the same
steps.

The rest of the daemon is seen through two things: which parameter list the channel
answers with, and which backends are in force when the dispatcher looks.  A step of another
task leaves the view alone (`dispatch_of_hidden`), and a step of the dispatcher is one of
the view under the label that says what it found (`dispatch_of_shown`).
-/

namespace DaemonChoir.Conductor

open DaemonChoir.Common DaemonChoir.Foundation

/-! ## The loop by itself -/

/-- `OscDispatcher` with the counters it shares. -/
structure Dispatch (F : Type) where
  dispatcher : OscDispatcher F
  oscMetrics : OscMetrics

/-- One operation of the loop, with what comes from outside. -/
inductive DispatchLabel (F : Type) where
  /-- `rx.recv()`: a parameter list, or the end of the queue. -/
  | recv (received : Option (Tagged (List (MappedParam F))))
  /-- `backends.read()`: the list in force, unless the lock is poisoned. -/
  | readBackends (active : Option (List OscBackendConfig))
  /-- The clock for the timetag, and the encoding. -/
  | stamp (now : SystemTime)
  /-- `osc_dispatch_total.fetch_add` -/
  | offer
  /-- `socket.send_to`, with its outcome. -/
  | sendTo (ok : Bool)
  /-- `osc_dispatch_success_total.fetch_add` -/
  | credit
  /-- The clock after the sends. -/
  | readClock (nowUs : UInt64)
  /-- `snapshot_timestamp_us.load`, with what it returns. -/
  | load (startUs : UInt64)
  /-- One operation of `observe`. -/
  | record

namespace Dispatch

section Steps

variable {F : Type} [Float64 F]

/-- Before the first `rx.recv()`. -/
def fresh : Dispatch F where
  dispatcher := .receiving
  oscMetrics := ⟨0, 0⟩

/-- One step of `OscDispatcher::run`.  `encode` is `rosc::encoder::encode`. -/
def step (encode : OscBundle F → Option (List UInt8)) (dispatch : Dispatch F) :
    DispatchLabel F → Option (Dispatch F)
  | .recv received =>
      match dispatch.dispatcher, received with
      | .receiving, none => some { dispatch with dispatcher := .stopped }
      | .receiving, some params =>
          if params.item.isEmpty then some dispatch
          else some { dispatch with dispatcher := .received params }
      | _, _ => none
  | .readBackends active =>
      match dispatch.dispatcher, active with
      | .received _, none => some { dispatch with dispatcher := .receiving }
      | .received params, some activeBackends =>
          some { dispatch with dispatcher := .stamping params activeBackends }
      | _, _ => none
  | .stamp now =>
      match dispatch.dispatcher with
      | .stamping params activeBackends =>
          match encode (oscBundle params.item now) with
          | none => some { dispatch with dispatcher := .receiving }
          | some packet =>
              some { dispatch with dispatcher := .offering params.origin packet activeBackends }
      | _ => none
  | .offer =>
      match dispatch.dispatcher with
      | .offering origin packet (backend :: rest) =>
          some { dispatch with
            dispatcher := .sending origin packet backend rest
            oscMetrics := { dispatch.oscMetrics with
              oscDispatchTotal := dispatch.oscMetrics.oscDispatchTotal + 1 } }
      | _ => none
  | .sendTo ok =>
      match dispatch.dispatcher with
      | .sending origin packet _ rest =>
          if ok then some { dispatch with dispatcher := .crediting origin packet rest }
          else some { dispatch with dispatcher := .offering origin packet rest }
      | _ => none
  | .credit =>
      match dispatch.dispatcher with
      | .crediting origin packet rest =>
          some { dispatch with
            dispatcher := .offering origin packet rest
            oscMetrics := { dispatch.oscMetrics with
              oscDispatchSuccessTotal := dispatch.oscMetrics.oscDispatchSuccessTotal + 1 } }
      | _ => none
  | .readClock nowUs =>
      match dispatch.dispatcher with
      | .offering origin _ [] => some { dispatch with dispatcher := .loading origin nowUs }
      | _ => none
  | .load startUs =>
      match dispatch.dispatcher with
      | .loading _ nowUs =>
          match (diffMs nowUs startUs : Option F) with
          | none => some { dispatch with dispatcher := .receiving }
          | some ms => some { dispatch with dispatcher := .recording (observe ms) }
      | _ => none
  | .record =>
      match dispatch.dispatcher with
      | .recording (_ :: rest) =>
          some { dispatch with
            dispatcher := if rest.isEmpty then .receiving else .recording rest }
      | _ => none

end Steps

/-! ## What a step can do -/

section Moves

variable {F : Type} [Float64 F]

/-- One case for each branch of the loop. -/
inductive Moves (encode : OscBundle F → Option (List UInt8)) (dispatch : Dispatch F) :
    DispatchLabel F → Dispatch F → Prop
  | ended (hdispatcher : dispatch.dispatcher = .receiving) :
      Moves encode dispatch (.recv none) { dispatch with dispatcher := .stopped }
  | empty (params : Tagged (List (MappedParam F)))
      (hdispatcher : dispatch.dispatcher = .receiving)
      (hempty : params.item.isEmpty = true) :
      Moves encode dispatch (.recv (some params)) dispatch
  | received (params : Tagged (List (MappedParam F)))
      (hdispatcher : dispatch.dispatcher = .receiving)
      (hfilled : params.item.isEmpty = false) :
      Moves encode dispatch (.recv (some params))
        { dispatch with dispatcher := .received params }
  | poisoned (params : Tagged (List (MappedParam F)))
      (hdispatcher : dispatch.dispatcher = .received params) :
      Moves encode dispatch (.readBackends none) { dispatch with dispatcher := .receiving }
  | stamping (params : Tagged (List (MappedParam F))) (backends : List OscBackendConfig)
      (hdispatcher : dispatch.dispatcher = .received params) :
      Moves encode dispatch (.readBackends (some backends))
        { dispatch with dispatcher := .stamping params backends }
  | encodeFailed (now : SystemTime) (params : Tagged (List (MappedParam F)))
      (backends : List OscBackendConfig)
      (hdispatcher : dispatch.dispatcher = .stamping params backends)
      (hencode : encode (oscBundle params.item now) = none) :
      Moves encode dispatch (.stamp now) { dispatch with dispatcher := .receiving }
  | stamped (now : SystemTime) (params : Tagged (List (MappedParam F)))
      (backends : List OscBackendConfig) (packet : List UInt8)
      (hdispatcher : dispatch.dispatcher = .stamping params backends)
      (hencode : encode (oscBundle params.item now) = some packet) :
      Moves encode dispatch (.stamp now)
        { dispatch with dispatcher := .offering params.origin packet backends }
  | offered (origin : ℕ) (packet : List UInt8) (backend : OscBackendConfig)
      (rest : List OscBackendConfig)
      (hdispatcher : dispatch.dispatcher = .offering origin packet (backend :: rest)) :
      Moves encode dispatch .offer
        { dispatch with
          dispatcher := .sending origin packet backend rest
          oscMetrics := { dispatch.oscMetrics with
            oscDispatchTotal := dispatch.oscMetrics.oscDispatchTotal + 1 } }
  | sendToOk (origin : ℕ) (packet : List UInt8) (backend : OscBackendConfig)
      (rest : List OscBackendConfig)
      (hdispatcher : dispatch.dispatcher = .sending origin packet backend rest) :
      Moves encode dispatch (.sendTo true)
        { dispatch with dispatcher := .crediting origin packet rest }
  | sendToErr (origin : ℕ) (packet : List UInt8) (backend : OscBackendConfig)
      (rest : List OscBackendConfig)
      (hdispatcher : dispatch.dispatcher = .sending origin packet backend rest) :
      Moves encode dispatch (.sendTo false)
        { dispatch with dispatcher := .offering origin packet rest }
  | credited (origin : ℕ) (packet : List UInt8) (rest : List OscBackendConfig)
      (hdispatcher : dispatch.dispatcher = .crediting origin packet rest) :
      Moves encode dispatch .credit
        { dispatch with
          dispatcher := .offering origin packet rest
          oscMetrics := { dispatch.oscMetrics with
            oscDispatchSuccessTotal := dispatch.oscMetrics.oscDispatchSuccessTotal + 1 } }
  | clockRead (nowUs : UInt64) (origin : ℕ) (packet : List UInt8)
      (hdispatcher : dispatch.dispatcher = .offering origin packet []) :
      Moves encode dispatch (.readClock nowUs)
        { dispatch with dispatcher := .loading origin nowUs }
  | loadNone (origin : ℕ) (nowUs startUs : UInt64)
      (hdispatcher : dispatch.dispatcher = .loading origin nowUs) :
      Moves encode dispatch (.load startUs) { dispatch with dispatcher := .receiving }
  | loadSome (origin : ℕ) (nowUs startUs : UInt64) (ms : F)
      (hdispatcher : dispatch.dispatcher = .loading origin nowUs) :
      Moves encode dispatch (.load startUs)
        { dispatch with dispatcher := .recording (observe ms) }
  | recorded (operation : HistogramAdd) (rest : List HistogramAdd)
      (hdispatcher : dispatch.dispatcher = .recording (operation :: rest)) :
      Moves encode dispatch .record
        { dispatch with dispatcher := if rest.isEmpty then .receiving else .recording rest }

variable {encode : OscBundle F → Option (List UInt8)} {dispatch next : Dispatch F}
  {label : DispatchLabel F}

theorem recv_moves {received : Option (Tagged (List (MappedParam F)))}
    (taken : dispatch.step encode (.recv received) = some next) :
    Moves encode dispatch (.recv received) next := by
  simp only [step] at taken
  split at taken
  · rename_i hdispatcher
    cases taken
    exact .ended hdispatcher
  · rename_i params hdispatcher
    split at taken
    · rename_i hempty
      cases taken
      exact .empty params hdispatcher hempty
    · rename_i hfilled
      cases taken
      exact .received params hdispatcher (Bool.eq_false_iff.mpr hfilled)
  · cases taken

theorem readBackends_moves {active : Option (List OscBackendConfig)}
    (taken : dispatch.step encode (.readBackends active) = some next) :
    Moves encode dispatch (.readBackends active) next := by
  simp only [step] at taken
  split at taken
  · rename_i params hdispatcher
    cases taken
    exact .poisoned params hdispatcher
  · rename_i params backends hdispatcher
    cases taken
    exact .stamping params backends hdispatcher
  · cases taken

theorem stamp_moves {now : SystemTime}
    (taken : dispatch.step encode (.stamp now) = some next) :
    Moves encode dispatch (.stamp now) next := by
  simp only [step] at taken
  split at taken
  · rename_i params backends hdispatcher
    split at taken
    · rename_i hencode
      cases taken
      exact .encodeFailed now params backends hdispatcher hencode
    · rename_i packet hencode
      cases taken
      exact .stamped now params backends packet hdispatcher hencode
  · cases taken

theorem sendTo_moves {ok : Bool} (taken : dispatch.step encode (.sendTo ok) = some next) :
    Moves encode dispatch (.sendTo ok) next := by
  simp only [step] at taken
  split at taken
  · rename_i origin packet backend rest hdispatcher
    cases ok with
    | true =>
        cases taken
        exact .sendToOk origin packet backend rest hdispatcher
    | false =>
        cases taken
        exact .sendToErr origin packet backend rest hdispatcher
  · cases taken

theorem load_moves {startUs : UInt64}
    (taken : dispatch.step encode (.load startUs) = some next) :
    Moves encode dispatch (.load startUs) next := by
  simp only [step] at taken
  split at taken
  · rename_i origin nowUs hdispatcher
    split at taken
    · cases taken
      exact .loadNone origin nowUs startUs hdispatcher
    · rename_i ms _
      cases taken
      exact .loadSome origin nowUs startUs ms hdispatcher
  · cases taken

/-- A step does one of these things. -/
theorem step_moves (taken : dispatch.step encode label = some next) :
    Moves encode dispatch label next := by
  cases label with
  | recv received => exact recv_moves taken
  | readBackends active => exact readBackends_moves taken
  | stamp now => exact stamp_moves taken
  | sendTo ok => exact sendTo_moves taken
  | load startUs => exact load_moves taken
  | offer =>
      simp only [step] at taken
      split at taken
      · rename_i origin packet backend rest hdispatcher
        cases taken
        exact .offered origin packet backend rest hdispatcher
      · cases taken
  | credit =>
      simp only [step] at taken
      split at taken
      · rename_i origin packet rest hdispatcher
        cases taken
        exact .credited origin packet rest hdispatcher
      · cases taken
  | readClock nowUs =>
      simp only [step] at taken
      split at taken
      · rename_i origin packet hdispatcher
        cases taken
        exact .clockRead nowUs origin packet hdispatcher
      · cases taken
  | record =>
      simp only [step] at taken
      split at taken
      · rename_i operation rest hdispatcher
        cases taken
        exact .recorded operation rest hdispatcher
      · cases taken

end Moves

end Dispatch

/-! ## The loop among the other tasks -/

namespace Delivery

section Projection

variable {F : Type}

/-- The loop of the dispatcher with its counters. -/
def dispatch (delivery : Delivery F) : Dispatch F :=
  ⟨delivery.dispatcher, delivery.oscMetrics⟩

/-- The operation of the loop that a step is, with what it finds outside. -/
def dispatchLabel : Delivery F × DeliveryLabel F → Option (DispatchLabel F)
  | (delivery, .receiveParams) =>
      match delivery.mappedParams.recv with
      | .item params _ => some (.recv (some params))
      | .ended => some (.recv none)
      | .pending => none
  | (delivery, .readBackends) => some (.readBackends delivery.cells.oscBackends.read)
  | (_, .stamp now) => some (.stamp now)
  | (_, .offer) => some .offer
  | (_, .sendTo ok) => some (.sendTo ok)
  | (_, .credit) => some .credit
  | (_, .readClock nowUs) => some (.readClock nowUs)
  | (delivery, .load) => some (.load delivery.snapshotTimestampUs)
  | (_, .record) => some .record
  | _ => none

variable [Float64 F] [Libm F] {encode : OscBundle F → Option (List UInt8)}
  {delivery next : Delivery F} {label : DeliveryLabel F}

omit [Float64 F] [Libm F] in
theorem receiveParams_of_hidden (hlabel : dispatchLabel (delivery, .receiveParams) = none) :
    delivery.receiveParams = none := by
  simp only [dispatchLabel] at hlabel
  split at hlabel
  · cases hlabel
  · cases hlabel
  · rename_i hpending
    simp only [receiveParams, hpending]
    split <;> rfl

theorem dispatch_of_hidden (hlabel : dispatchLabel (delivery, label) = none)
    (taken : delivery.step encode label = some next) : next.dispatch = delivery.dispatch := by
  cases label with
  | receiveParams =>
      rw [step, receiveParams_of_hidden hlabel] at taken
      cases taken
  | _ => cases step_moves taken <;> first | rfl | cases hlabel

/-- A step of the dispatcher is a step of the loop by itself. -/
theorem dispatch_of_shown {image : DispatchLabel F}
    (hlabel : dispatchLabel (delivery, label) = some image)
    (taken : delivery.step encode label = some next) :
    delivery.dispatch.step encode image = some next.dispatch := by
  cases label with
  | receiveParams =>
      simp only [step, receiveParams] at taken
      simp only [dispatchLabel] at hlabel
      split at taken
      · rename_i hdispatcher
        split at taken
        · rename_i params rest hrecv
          rw [hrecv] at hlabel
          cases hlabel
          simp only [Dispatch.step, dispatch, hdispatcher]
          split at taken
          · rename_i hempty
            cases taken
            rw [if_pos hempty, hdispatcher]
          · rename_i hfilled
            cases taken
            rw [if_neg hfilled]
        · rename_i hended
          rw [hended] at hlabel
          cases hlabel
          cases taken
          simp only [Dispatch.step, dispatch, hdispatcher]
        · cases taken
      · cases taken
  | readBackends =>
      cases hlabel
      simp only [step, readBackends] at taken
      split at taken
      · rename_i params hdispatcher
        simp only [Dispatch.step, dispatch, hdispatcher]
        cases hread : delivery.cells.oscBackends.read with
        | none =>
            rw [hread] at taken
            cases taken
            rfl
        | some backends =>
            rw [hread] at taken
            cases taken
            rfl
      · cases taken
  | stamp now =>
      cases hlabel
      cases step_moves taken with
      | encodeFailed now params backends hdispatcher hencode =>
          simp only [Dispatch.step, dispatch, hdispatcher, hencode]
      | stamped now params backends packet hdispatcher hencode =>
          simp only [Dispatch.step, dispatch, hdispatcher, hencode]
  | load =>
      cases hlabel
      cases step_moves taken with
      | loadNone origin nowUs hdispatcher hdiff =>
          simp only [Dispatch.step, dispatch, hdispatcher, hdiff]
      | loadSome origin nowUs ms hdispatcher hdiff =>
          simp only [Dispatch.step, dispatch, hdispatcher, hdiff]
  | _ =>
      -- these operations find nothing outside: the case of the loop is the case of the step
      cases step_moves taken <;> cases hlabel <;>
        simp_all only [Dispatch.step, dispatch, Bool.false_eq_true, if_true, if_false]

end Projection

end Delivery

end DaemonChoir.Conductor
