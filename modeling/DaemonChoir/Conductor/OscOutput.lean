import DaemonChoir.Common.Ieee
import DaemonChoir.Conductor.Delivery
set_option autoImplicit false

/-!
# Conductor: the bundles are an image of the snapshots

`Delivery` is a pipeline in the sense of `Foundation.Pipeline`: emissions enter at the
end of the chain, queues and hands keep their order, and a dispatched bundle leaves at
the front.  What each item is made of is read off the history of the run.

The chain of `Foundation.Pipeline` lists the numbers under way from the dispatcher's hands
back to the snapshot channel.  Three facts about a step are enough for order, for at most
one bundle per snapshot, and for the fate of every snapshot: new numbers enter at the end,
numbers leave where the step says so, and only the front is delivered (`Moves.follows`).

What an item is made of is a second invariant beside the chain.  A snapshot under way was
emitted under its number, a parameter list under way was mapped from such a snapshot by the
rule list that was in force at one moment between its emission and its dispatch
(`Moves.carriesSnapshot`, `Moves.carriesParams`).  So a bundle is explained by one visit of
the history for each thing it depends on.

The small encoder at the end writes an OSC bundle whose numbers are all zero.  It serves
the concrete runs, where only the question whether the encoder succeeds matters.
-/

namespace DaemonChoir.Conductor

open DaemonChoir.Common DaemonChoir.Foundation

/-! ## Numbers under way -/

/-- The emission the engine is working on. -/
def MappingEngine.origins {F : Type} : MappingEngine F → List ℕ
  | .holding snapshot => [snapshot.origin]
  | .sending params => [params.origin]
  | _ => []

/-- The emission the dispatcher is working on, until its bundle is made. -/
def OscDispatcher.origins {F : Type} : OscDispatcher F → List ℕ
  | .received params => [params.origin]
  | .stamping params _ => [params.origin]
  | _ => []

namespace Delivery

section Visits

variable {F : Type}

/-- Neither queue has lost its receiver, and no lock is poisoned. -/
structure Open (delivery : Delivery F) : Prop where
  snapshots : delivery.snapshots.receiverGone = false
  mappedParams : delivery.mappedParams.receiverGone = false
  cells : delivery.cells.Healthy

/-- The emissions under way behind the dispatcher, oldest first. -/
def behind (delivery : Delivery F) : List ℕ :=
  delivery.mappedParams.queue.map Tagged.origin ++ delivery.engine.origins ++
    delivery.snapshots.queue.map Tagged.origin

/-- The emissions under way, oldest first. -/
def chain (delivery : Delivery F) : List ℕ :=
  delivery.dispatcher.origins ++ delivery.behind

/-- Both queues are empty, and the two tasks wait for more. -/
structure Drained (delivery : Delivery F) : Prop where
  snapshots : delivery.snapshots.queue = []
  engine : delivery.engine = .receiving
  mappedParams : delivery.mappedParams.queue = []
  dispatcher : delivery.dispatcher = .receiving

theorem Drained.chain {delivery : Delivery F} (h : delivery.Drained) :
    delivery.chain = [] := by
  simp [Delivery.chain, behind, h.snapshots, h.engine, h.mappedParams, h.dispatcher,
    MappingEngine.origins, OscDispatcher.origins]

/-- A snapshot is offered to the mapping engine. -/
def emitted : Delivery F × DeliveryLabel F → Option (Tagged (StateSnapshot F))
  | (delivery, .emit) => delivery.ticking.map fun snapshot => ⟨delivery.emissions, snapshot⟩
  | _ => none

/-- The snapshots queue holds 256 items when a snapshot is offered. -/
def refused : Delivery F × DeliveryLabel F → Option ℕ
  | (delivery, .emit) =>
      if delivery.ticking.isSome ∧ delivery.snapshots.IsFull then some delivery.emissions
      else none
  | _ => none

/-- The parameter queue holds 256 items when a parameter list is offered. -/
def overflowed : Delivery F × DeliveryLabel F → Option ℕ
  | (delivery, .sendParams) =>
      match delivery.engine with
      | .sending params =>
          if delivery.mappedParams.IsFull then some params.origin else none
      | _ => none
  | _ => none

/-- The dispatcher receives an empty parameter list. -/
def skipped : Delivery F × DeliveryLabel F → Option ℕ
  | (delivery, .receiveParams) =>
      match delivery.dispatcher, delivery.mappedParams.queue with
      | .receiving, params :: _ =>
          if params.item.isEmpty then some params.origin else none
      | _, _ => none
  | _ => none

variable [Float64 F]

/-- A bundle is made for the backends in force. -/
def bundled : Delivery F × DeliveryLabel F → Option (Tagged (OscBundle F))
  | (delivery, .stamp now) =>
      match delivery.dispatcher with
      | .stamping params _ => some ⟨params.origin, oscBundle params.item now⟩
      | _ => none
  | _ => none

/-- A bundle is encoded, and so dispatched. -/
def dispatched (encode : OscBundle F → Option (List UInt8))
    (visit : Delivery F × DeliveryLabel F) : Option (Tagged (OscBundle F)) :=
  (bundled visit).filter fun bundle => (encode bundle.item).isSome

/-- The emissions that leave the chain at the visit. -/
def removed (visit : Delivery F × DeliveryLabel F) : List ℕ :=
  (refused visit).toList ++ (overflowed visit).toList ++ (skipped visit).toList ++
    ((bundled visit).map Tagged.origin).toList

end Visits

/-! ## What each operation does to the chain -/

section Chain

variable {F : Type} [Float64 F]

/-- `next` follows `delivery` by the rules of the pipeline. -/
def Follows (encode : OscBundle F → Option (List UInt8)) (delivery : Delivery F)
    (label : DeliveryLabel F) (next : Delivery F) : Prop :=
  ∃ front back,
    delivery.chain ++
        (if (emitted (delivery, label)).isSome then [delivery.emissions] else []) =
        front ++ removed (delivery, label) ++ back ∧
      next.chain = front ++ back ∧
      (((dispatched encode (delivery, label)).map Tagged.origin).toList = [] ∨
        ((dispatched encode (delivery, label)).map Tagged.origin).toList =
          removed (delivery, label) ∧ front = [])

theorem follows_of_eq {encode : OscBundle F → Option (List UInt8)}
    {delivery next : Delivery F} {label : DeliveryLabel F}
    (hchain : next.chain = delivery.chain)
    (hemitted : emitted (delivery, label) = none)
    (hremoved : removed (delivery, label) = [])
    (hbundled : bundled (delivery, label) = none) :
    Follows encode delivery label next := by
  refine ⟨delivery.chain, [], ?_, ?_, .inl ?_⟩
  · rw [hemitted, hremoved]
    simp
  · rw [hchain, List.append_nil]
  · rw [dispatched, hbundled]
    rfl

variable [Libm F] {encode : OscBundle F → Option (List UInt8)} {delivery next : Delivery F}
  {label : DeliveryLabel F}

/-- No step opens a queue or heals a lock. -/
theorem Moves.open_back (moves : Moves encode delivery label next) (hopen : next.Open) :
    delivery.Open := by
  cases moves with
  | emitOk snapshot after hticking hgone =>
      exact ⟨hgone, hopen.mappedParams, hopen.cells⟩
  | held snapshot rest hengine hqueue hgone =>
      exact ⟨hgone ▸ hopen.snapshots, hopen.mappedParams, hopen.cells⟩
  | snapshotsEnded => cases hopen.snapshots
  | mapPanicked => cases hopen.snapshots
  | sendClosed => cases hopen.snapshots
  | sendOk params after hengine hgone =>
      exact ⟨hopen.snapshots, hgone, hopen.cells⟩
  | receiveEmpty params rest hdispatcher hqueue hgone =>
      exact ⟨hopen.snapshots, hgone ▸ hopen.mappedParams, hopen.cells⟩
  | receiveFilled params rest hdispatcher hqueue hgone =>
      exact ⟨hopen.snapshots, hgone ▸ hopen.mappedParams, hopen.cells⟩
  | paramsEnded => cases hopen.mappedParams
  | written write => exact ⟨hopen.snapshots, hopen.mappedParams, hopen.cells.of_perform⟩
  | _ => exact ⟨hopen.snapshots, hopen.mappedParams, hopen.cells⟩

/-- Every step follows the rules of the pipeline. -/
theorem Moves.follows (moves : Moves encode delivery label next) (hopen : next.Open) :
    Follows encode delivery label next := by
  cases moves with
  | emitOk snapshot after hticking hgone hroom hqueue =>
      refine ⟨delivery.chain ++ [delivery.emissions], [], ?_, ?_, .inl rfl⟩
      · simp [emitted, removed, refused, overflowed, skipped, bundled, hticking, hroom]
      · simp [chain, behind, hqueue]
  | emitFull snapshot hticking hgone hfull =>
      refine ⟨delivery.chain, [], ?_, ?_, .inl rfl⟩
      · simp [emitted, removed, refused, overflowed, skipped, bundled, hticking, hfull]
      · simp [chain, behind]
  | emitClosed snapshot hticking hgone =>
      have hstill := hopen.snapshots
      rw [Channel.dropSenders_receiverGone, hgone] at hstill
      cases hstill
  | held snapshot rest hengine hqueue hgone =>
      refine follows_of_eq ?_ rfl rfl rfl
      simp [chain, behind, hengine, MappingEngine.origins, hqueue]
  | snapshotsEnded => cases hopen.snapshots
  | rulesPoisoned snapshot hengine hpoisoned =>
      have hhealthy := hopen.cells.mappingRules
      rw [hpoisoned] at hhealthy
      cases hhealthy
  | mapPanicked => cases hopen.snapshots
  | mapped snapshot params hengine hmapped =>
      refine follows_of_eq ?_ rfl rfl rfl
      simp [chain, behind, hengine, MappingEngine.origins]
  | sendOk params after hengine hgone hroom hqueue =>
      refine follows_of_eq ?_ rfl ?_ rfl
      · simp [chain, behind, hengine, MappingEngine.origins, hqueue]
      · simp [removed, refused, overflowed, skipped, bundled, hengine, hroom]
  | sendFull params hengine hgone hfull =>
      refine ⟨delivery.dispatcher.origins ++ delivery.mappedParams.queue.map Tagged.origin,
        delivery.snapshots.queue.map Tagged.origin, ?_, ?_, .inl rfl⟩
      · simp [emitted, chain, behind, removed, refused, overflowed, skipped, bundled, hengine,
          MappingEngine.origins, hfull]
      · simp [chain, behind, MappingEngine.origins]
  | sendClosed => cases hopen.snapshots
  | receiveEmpty params rest hdispatcher hqueue hgone hempty =>
      refine ⟨[], Delivery.behind { delivery with mappedParams := rest }, ?_, ?_, .inl rfl⟩
      · simp [emitted, chain, behind, removed, refused, overflowed, skipped, bundled,
          hdispatcher, OscDispatcher.origins, hqueue, hempty]
      · simp [chain, behind, hdispatcher, OscDispatcher.origins]
  | receiveFilled params rest hdispatcher hqueue hgone hfilled =>
      refine follows_of_eq ?_ rfl ?_ rfl
      · simp [chain, behind, hdispatcher, OscDispatcher.origins, hqueue]
      · simp [removed, refused, overflowed, skipped, bundled, hdispatcher, hqueue, hfilled]
  | paramsEnded => cases hopen.mappedParams
  | backendsPoisoned params hdispatcher hpoisoned =>
      have hhealthy := hopen.cells.oscBackends
      rw [hpoisoned] at hhealthy
      cases hhealthy
  | stamping params hdispatcher =>
      refine follows_of_eq ?_ rfl rfl rfl
      simp [chain, behind, hdispatcher, OscDispatcher.origins]
  | encodeFailed now params backends hdispatcher hencode =>
      refine ⟨[], delivery.behind, ?_, rfl, .inl ?_⟩
      · simp [emitted, chain, removed, refused, overflowed, skipped, bundled, hdispatcher,
          OscDispatcher.origins]
      · simp [dispatched, bundled, hdispatcher, hencode]
  | stamped now params backends packet hdispatcher hencode =>
      have hremoved : removed (delivery, DeliveryLabel.stamp now) = [params.origin] := by
        simp [removed, refused, overflowed, skipped, bundled, hdispatcher]
      refine ⟨[], delivery.behind, ?_, rfl, .inr ⟨?_, rfl⟩⟩
      · rw [hremoved]
        simp [emitted, chain, hdispatcher, OscDispatcher.origins]
      · rw [hremoved]
        simp [dispatched, bundled, hdispatcher, hencode]
  | loadNone origin nowUs hdispatcher =>
      refine follows_of_eq ?_ rfl rfl rfl
      simp [chain, behind, hdispatcher, OscDispatcher.origins]
  | loadSome origin nowUs ms hdispatcher =>
      refine follows_of_eq ?_ rfl rfl rfl
      simp [chain, behind, hdispatcher, OscDispatcher.origins]
  | recorded operation rest hdispatcher =>
      refine follows_of_eq ?_ rfl rfl rfl
      cases rest <;> simp [chain, behind, hdispatcher, OscDispatcher.origins]
  | pushed event => exact follows_of_eq rfl rfl rfl rfl
  | ticked nowUs lostEventsDelta => exact follows_of_eq rfl rfl rfl rfl
  | written write => exact follows_of_eq rfl rfl rfl rfl
  | _ =>
      -- the dispatcher is past the stamp, where it holds no number
      rename_i hdispatcher
      refine follows_of_eq ?_ rfl rfl rfl
      simp [chain, behind, hdispatcher, OscDispatcher.origins]

theorem Moves.emissions_eq (moves : Moves encode delivery label next) :
    next.emissions =
      delivery.emissions + (if (emitted (delivery, label)).isSome then 1 else 0) := by
  cases moves with
  | emitOk snapshot after hticking => simp [emitted, hticking]
  | emitFull snapshot hticking => simp [emitted, hticking]
  | emitClosed snapshot hticking => simp [emitted, hticking]
  | _ => rfl

/-- The tasks and queues as a pipeline. -/
def pipeline (encode : OscBundle F → Option (List UInt8)) : Pipeline (step encode) where
  chain := chain
  issued := emissions
  enters visit := (emitted visit).isSome
  removed := removed
  delivered visit := ((dispatched encode visit).map Tagged.origin).toList
  ok := Open
  ok_back taken hopen := (step_moves taken).open_back hopen
  step_chain taken hopen := by
    obtain ⟨front, back, hwhole, hnext, hdispatched⟩ := (step_moves taken).follows hopen
    exact ⟨front, back, hwhole, hnext, (step_moves taken).emissions_eq, hdispatched⟩

end Chain

/-! ## What the items under way are made of -/

section Provenance

variable {F : Type}

/-- The snapshot is in the queue or in the hands of the engine. -/
def CarriesSnapshot (delivery : Delivery F) (snapshot : Tagged (StateSnapshot F)) : Prop :=
  snapshot ∈ delivery.snapshots.queue ∨ delivery.engine = .holding snapshot

/-- The parameter list is in the hands of the engine, in the queue, or in the hands of
the dispatcher. -/
def CarriesParams (delivery : Delivery F) (params : Tagged (List (MappedParam F))) : Prop :=
  delivery.engine = .sending params ∨ params ∈ delivery.mappedParams.queue ∨
    delivery.dispatcher.taken = some params

variable [Float64 F] [Libm F]

/-- The parameter list is made at the visit, from a snapshot in the hands of the engine
and the rules then in force. -/
def Maps (visit : Delivery F × DeliveryLabel F) (snapshot : StateSnapshot F)
    (params : Tagged (List (MappedParam F))) : Prop :=
  visit.2 = .readRules ∧ visit.1.engine = .holding ⟨params.origin, snapshot⟩ ∧
    mapRules snapshot.metrics visit.1.cells.mappingRules.value = some params.item

variable {encode : OscBundle F → Option (List UInt8)} {delivery next : Delivery F}
  {label : DeliveryLabel F}

/-- A step moves snapshots on; only an emission brings in a new one. -/
theorem Moves.carriesSnapshot (moves : Moves encode delivery label next)
    {snapshot : Tagged (StateSnapshot F)} (h : next.CarriesSnapshot snapshot) :
    delivery.CarriesSnapshot snapshot ∨ emitted (delivery, label) = some snapshot := by
  cases moves with
  | emitOk fresh after hticking hgone hroom hqueue =>
      simp only [CarriesSnapshot, hqueue, List.mem_append, List.mem_singleton] at h
      rcases h with (h | rfl) | h
      · exact .inl (.inl h)
      · exact .inr (by simp [emitted, hticking])
      · exact .inl (.inr h)
  | held received rest hengine hqueue =>
      refine .inl (.inl ?_)
      rw [hqueue]
      rcases h with h | h
      · exact List.mem_cons_of_mem _ h
      · rw [MappingEngine.holding.inj h]
        exact List.mem_cons_self
  | _ =>
      -- the queue is as it was, and the engine holds what it held or nothing
      rcases h with h | h
      · exact .inl (.inl h)
      · first | exact .inl (.inr h) | cases h

/-- A step moves parameter lists on; only the engine makes a new one. -/
theorem Moves.carriesParams (moves : Moves encode delivery label next)
    {params : Tagged (List (MappedParam F))} (h : next.CarriesParams params) :
    delivery.CarriesParams params ∨ ∃ snapshot, Maps (delivery, label) snapshot params := by
  cases moves with
  | mapped snapshot made hengine hmapped =>
      rcases h with h | h
      · obtain rfl := MappingEngine.sending.inj h
        exact .inr ⟨snapshot.item, rfl, hengine, hmapped⟩
      · exact .inl (.inr h)
  | sendOk sent after hengine hgone hroom hqueue =>
      simp only [CarriesParams, hqueue, List.mem_append, List.mem_singleton] at h
      rcases h with h | (h | rfl) | h
      · cases h
      · exact .inl (.inr (.inl h))
      · exact .inl (.inl hengine)
      · exact .inl (.inr (.inr h))
  | receiveEmpty received rest hdispatcher hqueue =>
      rcases h with h | h | h
      · exact .inl (.inl h)
      · exact .inl (.inr (.inl (by rw [hqueue]; exact List.mem_cons_of_mem _ h)))
      · exact .inl (.inr (.inr h))
  | receiveFilled received rest hdispatcher hqueue =>
      rcases h with h | h | h
      · exact .inl (.inl h)
      · exact .inl (.inr (.inl (by rw [hqueue]; exact List.mem_cons_of_mem _ h)))
      · rw [Option.some.inj h] at hqueue
        exact .inl (.inr (.inl (by rw [hqueue]; exact List.mem_cons_self)))
  | stamping received hdispatcher =>
      rcases h with h | h | h
      · exact .inl (.inl h)
      · exact .inl (.inr (.inl h))
      · exact .inl (.inr (.inr (by rw [hdispatcher]; exact h)))
  | recorded operation rest hdispatcher =>
      rcases h with h | h | h
      · exact .inl (.inl h)
      · exact .inl (.inr (.inl h))
      · cases rest <;> cases h
  | _ =>
      -- the queue is as it was, and each task holds what it held or nothing
      rcases h with h | h | h
      · first | exact .inl (.inl h) | cases h
      · exact .inl (.inr (.inl h))
      · first | exact .inl (.inr (.inr h)) | cases h

/-! ## Runs -/

variable {encode : OscBundle F → Option (List UInt8)} {config : Config F}
  {trace : List (Delivery F × DeliveryLabel F)} {final : Delivery F}

/-- The snapshot was offered to the mapping engine earlier, under its number. -/
def WasEmitted (history : List (Delivery F × DeliveryLabel F))
    (snapshot : Tagged (StateSnapshot F)) : Prop :=
  ∃ visit ∈ history, emitted visit = some snapshot

/-- The parameter list was made earlier from an emitted snapshot, by the rules in force
at a visit after its emission. -/
def WasMapped (history : List (Delivery F × DeliveryLabel F))
    (params : Tagged (List (MappedParam F))) : Prop :=
  ∃ front reading back snapshot, history = front ++ reading :: back ∧
    WasEmitted front ⟨params.origin, snapshot⟩ ∧ Maps reading snapshot params

theorem wasEmitted_of_carries (run : Run (step encode) (started config) trace final)
    {snapshot : Tagged (StateSnapshot F)} (h : final.CarriesSnapshot snapshot) :
    WasEmitted trace snapshot := by
  induction run with
  | nil =>
      rcases h with h | h
      · cases h
      · cases h
  | snoc _ taken ih =>
      rcases (step_moves taken).carriesSnapshot h with hbefore | hemitted
      · obtain ⟨visit, hmem, hvisit⟩ := ih hbefore
        exact ⟨visit, List.mem_append_left _ hmem, hvisit⟩
      · exact ⟨_, by simp, hemitted⟩

theorem wasMapped_of_carries (run : Run (step encode) (started config) trace final)
    {params : Tagged (List (MappedParam F))} (h : final.CarriesParams params) :
    WasMapped trace params := by
  induction run with
  | nil =>
      rcases h with h | h | h
      · cases h
      · cases h
      · cases h
  | @snoc trace before next label earlier taken ih =>
      rcases (step_moves taken).carriesParams h with hbefore | ⟨snapshot, hmaps⟩
      · obtain ⟨front, reading, back, snapshot, rfl, hemitted, hmaps⟩ := ih hbefore
        exact ⟨front, reading, back ++ [(before, label)], snapshot, by simp, hemitted, hmaps⟩
      · have hcarried : before.CarriesSnapshot ⟨params.origin, snapshot⟩ := .inr hmaps.2.1
        exact ⟨trace, (before, label), [], snapshot, rfl,
          wasEmitted_of_carries earlier hcarried, hmaps⟩

/-- The message carries the address of the rule and the transformed metric. -/
def IsMessage (metrics : MetricMap F) (rule : MappingRule F) (message : OscMessage F) : Prop :=
  message.addr = rule.oscAddress ∧
    ∃ val mappedVal, metrics.getValue rule.sourceMetric = some val ∧
      applyRule rule val = some mappedVal ∧ message.args = [Float64.asF32 mappedVal]

/-- The bundle has exactly one message for each rule with a known metric, in rule
order. -/
def IsBundle (metrics : MetricMap F) (rules : List (MappingRule F)) (bundle : OscBundle F) :
    Prop :=
  List.Forall₂ (IsMessage metrics)
    (rules.filter fun rule => (metrics.getValue rule.sourceMetric).isSome) bundle.content

theorem isBundle_of_mapRules {metrics : MetricMap F} {rules : List (MappingRule F)}
    {params : List (MappedParam F)} (h : mapRules metrics rules = some params)
    (now : SystemTime) : IsBundle metrics rules (oscBundle params now) := by
  refine List.forall₂_map_right_iff.mpr ((mapRules_forall₂ h).imp ?_)
  intro rule param hmessage
  obtain ⟨haddress, val, hval, hmapped⟩ := hmessage
  exact ⟨haddress, val, param.value, hval, hmapped, rfl⟩

/-- What the dispatched bundles of a run are with respect to its emissions. -/
structure IsImage (encode : OscBundle F → Option (List UInt8))
    (trace : List (Delivery F × DeliveryLabel F)) (final : Delivery F) : Prop where
  /-- The emissions are numbered in order. -/
  numbered : (trace.filterMap emitted).map Tagged.origin = List.range final.emissions
  /-- Bundles come in the order of their emissions, at most one for each. -/
  ordered : ((trace.filterMap (dispatched encode)).map Tagged.origin).Pairwise (· < ·)
  /-- A bundle is made from its emission by one rule list held after the emission and
  before the dispatch. -/
  made : ∀ front visit back bundle, trace = front ++ visit :: back →
    dispatched encode visit = some bundle →
      ∃ before emission between reading after snapshot,
        front = before ++ emission :: between ++ reading :: after ∧
          emitted emission = some ⟨bundle.origin, snapshot⟩ ∧
          IsBundle snapshot.metrics reading.1.cells.mappingRules.value bundle.item
  /-- Once the queues have drained, an emission without a bundle met a full queue or had
  no messages. -/
  explained : final.Drained → ∀ n < final.emissions,
    n ∈ (trace.filterMap (dispatched encode)).map Tagged.origin ∨
      ∃ visit ∈ trace,
        refused visit = some n ∨ overflowed visit = some n ∨ skipped visit = some n

omit [Libm F] in
theorem dispatched_eq_some {visit : Delivery F × DeliveryLabel F}
    {bundle : Tagged (OscBundle F)} (h : dispatched encode visit = some bundle) :
    ∃ params now, visit.2 = .stamp now ∧ visit.1.dispatcher.taken = some params ∧
      params.origin = bundle.origin ∧ bundle.item = oscBundle params.item now := by
  have hbundled : bundled visit = some bundle := (Option.filter_eq_some_iff.mp h).1
  unfold bundled at hbundled
  split at hbundled
  · rename_i delivery now
    split at hbundled
    · rename_i params backends hdispatcher
      obtain rfl := Option.some.inj hbundled
      exact ⟨params, now, rfl, by rw [hdispatcher]; rfl, rfl, rfl⟩
    · cases hbundled
  · cases hbundled

theorem delivered_eq (trace : List (Delivery F × DeliveryLabel F)) :
    trace.flatMap (pipeline encode).delivered =
      (trace.filterMap (dispatched encode)).map Tagged.origin := by
  induction trace with
  | nil => rfl
  | cons visit rest ih =>
      rw [List.flatMap_cons, ih, List.filterMap_cons]
      cases hdispatched : dispatched encode visit with
      | none => simp [pipeline, hdispatched]
      | some bundle => simp [pipeline, hdispatched]

omit [Float64 F] [Libm F] in
theorem emitted_origin {delivery : Delivery F} {label : DeliveryLabel F}
    {snapshot : Tagged (StateSnapshot F)} (h : emitted (delivery, label) = some snapshot) :
    snapshot.origin = delivery.emissions := by
  unfold emitted at h
  split at h
  · rename_i held heq
    obtain ⟨rfl, _⟩ := Prod.mk.inj heq
    obtain ⟨_, _, rfl⟩ := Option.map_eq_some_iff.mp h
    rfl
  · cases h

theorem emitted_numbered (run : Run (step encode) (started config) trace final) :
    (trace.filterMap emitted).map Tagged.origin = List.range final.emissions := by
  induction run with
  | nil => rfl
  | @snoc trace before next label _ taken ih =>
      rw [List.filterMap_append, List.map_append, ih, (step_moves taken).emissions_eq]
      cases hemitted : emitted (before, label) with
      | none => simp [hemitted]
      | some snapshot =>
          simp [hemitted, emitted_origin hemitted, List.range_succ]

/-- A bundle is made from its emission by one rule list held after the emission and before
the dispatch. -/
theorem made_of_dispatched (run : Run (step encode) (started config) trace final)
    {front back : List (Delivery F × DeliveryLabel F)} {visit : Delivery F × DeliveryLabel F}
    {bundle : Tagged (OscBundle F)} (hsplit : trace = front ++ visit :: back)
    (hdispatched : dispatched encode visit = some bundle) :
    ∃ before emission between reading after snapshot,
      front = before ++ emission :: between ++ reading :: after ∧
        emitted emission = some ⟨bundle.origin, snapshot⟩ ∧
        IsBundle snapshot.metrics reading.1.cells.mappingRules.value bundle.item := by
  subst hsplit
  obtain ⟨hfront, _⟩ := run.at_visit
  obtain ⟨params, now, _, htaken, horigin, hbundle⟩ := dispatched_eq_some hdispatched
  obtain ⟨earlier, reading, after, snapshot, hearlier, ⟨emission, hmem, hemission⟩, hmaps⟩ :=
    wasMapped_of_carries hfront (.inr (.inr htaken))
  obtain ⟨before, between, rfl⟩ := List.append_of_mem hmem
  refine ⟨before, emission, between, reading, after, snapshot, by simp [hearlier], ?_, ?_⟩
  · rw [hemission, horigin]
  · rw [hbundle]
    exact isBundle_of_mapRules hmaps.2.2 now

/-- With an encoder that succeeds and no channel closed, the dispatched bundles are an
in-order image of the emitted snapshots. -/
theorem output_is_image (hencode : ∀ bundle, (encode bundle).isSome = true)
    (run : Run (step encode) (started config) trace final) (hopen : final.Open) :
    IsImage encode trace final := by
  refine ⟨emitted_numbered run, ?_, ?_, ?_⟩
  · have hordered := ((pipeline encode).ordered run rfl hopen).1
    rw [delivered_eq] at hordered
    exact (List.pairwise_append.mp hordered).1
  · intro front visit back bundle hsplit hdispatched
    exact made_of_dispatched run hsplit hdispatched
  · intro hdrained n hn
    rcases (pipeline encode).accounted run rfl hopen hn with hchain | ⟨visit, hmem, hremoved⟩
    · have hempty : n ∈ ([] : List ℕ) := hdrained.chain ▸ hchain
      cases hempty
    · simp only [pipeline, removed, List.mem_append, Option.mem_toList] at hremoved
      rcases hremoved with ((hrefused | hoverflowed) | hskipped) | hbundled
      · exact .inr ⟨visit, hmem, .inl hrefused⟩
      · exact .inr ⟨visit, hmem, .inr (.inl hoverflowed)⟩
      · exact .inr ⟨visit, hmem, .inr (.inr hskipped)⟩
      · obtain ⟨bundle, hbundle, rfl⟩ := Option.map_eq_some_iff.mp hbundled
        have hdispatched : dispatched encode visit = some bundle :=
          Option.filter_eq_some_iff.mpr ⟨hbundle, hencode bundle.item⟩
        exact .inl (List.mem_map_of_mem (List.mem_filterMap.mpr ⟨visit, hmem, hdispatched⟩))

end Provenance

/-! ## A run over real bytes -/

/-- The four bytes of a big-endian integer. -/
def bigEndian (n : UInt32) : List UInt8 :=
  [(n >>> 24).toUInt8, (n >>> 16).toUInt8, (n >>> 8).toUInt8, n.toUInt8]

/-- An OSC string of ASCII characters: zero-terminated and padded to four bytes. -/
def oscString (text : String) : List UInt8 :=
  let bytes := text.toList.map fun c => UInt8.ofNat c.toNat
  bytes ++ List.replicate (4 - bytes.length % 4) 0

/-- The OSC 1.0 bytes of a message; `bits` are those of an `f32`. -/
def oscMessageBytes {F : Type} (bits : F → UInt32) (message : OscMessage F) : List UInt8 :=
  oscString message.addr ++
    oscString (String.ofList (',' :: message.args.map fun _ => 'f')) ++
      message.args.flatMap fun arg => bigEndian (bits arg)

/-- The OSC 1.0 bytes of a bundle. -/
def oscBundleBytes {F : Type} (bits : F → UInt32) (bundle : OscBundle F) : List UInt8 :=
  oscString "#bundle" ++ bigEndian bundle.timetag.seconds ++
    bigEndian bundle.timetag.fractional ++ bundle.content.flatMap fun message =>
      let bytes := oscMessageBytes bits message
      bigEndian (UInt32.ofNat bytes.length) ++ bytes

/-- The encoder for bundles whose arguments are all `0.0`, as those below are. -/
def encodeZeros {F : Type} (bundle : OscBundle F) : Option (List UInt8) :=
  some (oscBundleBytes (fun _ => 0) bundle)

/-- One rule and one backend. -/
def oneRule {F : Type} [Float64 F] : Config F :=
  { (Config.default : Config F) with
    backends := { osc := [{ name := "synth", address := "127.0.0.1:57120" }] }
    mapping := [{ sourceMetric := "cpu.sched.context_rate"
                  oscAddress := "/choir/voice/0/amplitude"
                  transform := "linear"
                  inputRange := (Float64.lit 0, Float64.lit 1)
                  outputRange := (Float64.lit 0, Float64.lit 1) }] }

/-- One snapshot on its way from the tick to the socket. -/
def oneSent {F : Type} : List (DeliveryLabel F) :=
  [.tick 1000000 0, .emit, .receiveSnapshot, .readRules, .sendParams, .receiveParams,
    .readBackends, .stamp ⟨1001000000⟩, .offer, .sendTo true, .credit]

/-- The same metric under another address. -/
def otherRule {F : Type} [Float64 F] : MappingRule F where
  sourceMetric := "cpu.sched.context_rate"
  oscAddress := "/choir/voice/1/amplitude"
  transform := "linear"
  inputRange := (Float64.lit 0, Float64.lit 1)
  outputRange := (Float64.lit 0, Float64.lit 1)

/-- A snapshot is sent, the rules are replaced, a second one is sent in vain, the rules are
removed, and a third one is mapped to nothing.  The clock steps back before the dispatcher
reads it, so that no latency is observed. -/
def threeSent {F : Type} [Float64 F] : List (DeliveryLabel F) :=
  oneSent ++ [.readClock 999000, .load, .write (.rules [otherRule]),
    .tick 1050000 0, .emit, .receiveSnapshot, .readRules, .sendParams, .receiveParams,
    .readBackends, .stamp ⟨1051000000⟩, .offer, .sendTo false, .readClock 1049000, .load,
    .write (.rules []), .tick 1100000 0, .emit, .receiveSnapshot, .readRules, .sendParams,
    .receiveParams]

/-- Three snapshots, two bundles in order, the second under the new address; the third
snapshot had no messages. -/
theorem output_is_image_reloaded :
    ∃ trace final, Run (step encodeZeros) (started (oneRule : Config Ieee)) trace final ∧
      final.Drained ∧ final.emissions = 3 ∧
      (trace.filterMap (dispatched encodeZeros)).map
          (fun bundle => (bundle.origin, bundle.item.content.map OscMessage.addr)) =
        [(0, ["/choir/voice/0/amplitude"]), (1, ["/choir/voice/1/amplitude"])] ∧
      trace.filterMap skipped = [2] ∧ IsImage encodeZeros trace final := by
  have run : Run (step encodeZeros) (started (oneRule : Config Ieee)) _ _ :=
    execute_sound threeSent rfl
  exact ⟨_, _, run, ⟨rfl, rfl, rfl, rfl⟩, rfl, rfl, rfl,
    output_is_image (fun _ => rfl) run ⟨rfl, rfl, ⟨rfl, rfl, rfl⟩⟩⟩

end Delivery

end DaemonChoir.Conductor
