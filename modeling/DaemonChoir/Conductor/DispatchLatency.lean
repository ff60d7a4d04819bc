import DaemonChoir.Conductor.OscOutput
set_option autoImplicit false

/-!
# Conductor: whose latency is observed

The time of a snapshot does not travel with it: each tick stores its clock reading in
one cell, and the dispatcher loads the cell after it has sent a bundle.  What it finds
there is the reading of the latest tick, whichever snapshot the bundle was made from.

An observation is a load of the cell that leads to a value; the additions it stands for are
made one after the other, and `histogram_of_run` says that the histogram is the result of
the additions of all observations, less those that the dispatcher has still to make.  The
number of the bundle goes with the observation, so that the value can be compared with the
snapshot of that bundle.

In exact arithmetic the value is right exactly when the cell still holds the reading of the
tick behind the emission.  This is a condition on the ticks of the run alone: the last tick
before the load has read the same time as the last one before the emission (`UpToDate`).
-/

namespace DaemonChoir.Conductor

open DaemonChoir.Common DaemonChoir.Foundation

/-- The emission whose packet the dispatcher has at hand, until its latency is decided. -/
def OscDispatcher.sent {F : Type} : OscDispatcher F → Option ℕ
  | .offering origin _ _ => some origin
  | .sending origin _ _ _ => some origin
  | .crediting origin _ _ => some origin
  | .loading origin _ => some origin
  | _ => none

/-- The additions of `observe` that the dispatcher has still to make. -/
def OscDispatcher.pending {F : Type} : OscDispatcher F → List HistogramAdd
  | .recording pending => pending
  | _ => []

/-- A value given to `latency_histogram.observe`. -/
structure Observation (F : Type) where
  /-- The emission of the bundle. -/
  origin : ℕ
  /-- The clock after the sends. -/
  nowUs : UInt64
  ms : F
  deriving DecidableEq, Repr

namespace Delivery

/-! ## Readings of the clock -/

section Clock

variable {F : Type}

/-- The clock reading of a tick. -/
def reading : Delivery F × DeliveryLabel F → Option UInt64
  | (_, .tick nowUs _) => some nowUs
  | _ => none

/-- The reading of the last tick of the history, `0` before the first. -/
def lastTick (history : List (Delivery F × DeliveryLabel F)) : UInt64 :=
  (history.filterMap reading).getLastD 0

theorem lastTick_append_singleton (history : List (Delivery F × DeliveryLabel F))
    (visit : Delivery F × DeliveryLabel F) :
    lastTick (history ++ [visit]) = (reading visit).getD (lastTick history) := by
  unfold lastTick
  cases hreading : reading visit with
  | none => simp [hreading]
  | some nowUs => simp [hreading]

theorem lastTick_append_of_none {front back : List (Delivery F × DeliveryLabel F)}
    (hback : ∀ visit ∈ back, reading visit = none) :
    lastTick (front ++ back) = lastTick front := by
  have hnone : back.filterMap reading = [] := List.filterMap_eq_nil_iff.mpr hback
  rw [lastTick, List.filterMap_append, hnone, List.append_nil]
  rfl

variable [Float64 F] [Libm F] {encode : OscBundle F → Option (List UInt8)}
  {delivery next : Delivery F} {label : DeliveryLabel F}

theorem Moves.clock (moves : Moves encode delivery label next) :
    (∃ nowUs snapshot, reading (delivery, label) = some nowUs ∧
      next.snapshotTimestampUs = nowUs ∧ next.ticking = some snapshot ∧
        snapshot.timestampUs = nowUs) ∨
    (reading (delivery, label) = none ∧
      next.snapshotTimestampUs = delivery.snapshotTimestampUs ∧
        (next.ticking = delivery.ticking ∨ next.ticking = none)) := by
  cases moves with
  | ticked nowUs lostEventsDelta after snapshot hrunning hticking htick =>
      obtain ⟨metrics, _, heq⟩ := delivery.aggregator.tick_eq nowUs lostEventsDelta
      rw [heq] at htick
      obtain ⟨_, rfl⟩ := Prod.mk.inj (Option.some.inj htick)
      exact .inl ⟨nowUs, _, rfl, rfl, rfl, rfl⟩
  | emitOk => exact .inr ⟨rfl, rfl, .inr rfl⟩
  | emitFull => exact .inr ⟨rfl, rfl, .inr rfl⟩
  | emitClosed => exact .inr ⟨rfl, rfl, .inr rfl⟩
  | _ => exact .inr ⟨rfl, rfl, .inl rfl⟩

variable {config : Config F} {trace : List (Delivery F × DeliveryLabel F)}
  {final : Delivery F}

/-- The cell holds the reading of the last tick, and so does the snapshot that the tick
has made. -/
theorem clock_of_run (run : Run (step encode) (started config) trace final) :
    final.snapshotTimestampUs = lastTick trace ∧
      ∀ snapshot, final.ticking = some snapshot →
        snapshot.timestampUs = lastTick trace := by
  induction run with
  | nil =>
      refine ⟨rfl, ?_⟩
      intro snapshot hticking
      cases hticking
  | @snoc trace before next label _ taken ih =>
      obtain ⟨hcell, hsnapshot⟩ := ih
      rw [lastTick_append_singleton]
      rcases (step_moves taken).clock with
        ⟨nowUs, snapshot, hreading, hnext, hticking, hstamp⟩ | ⟨hreading, hnext, hticking⟩
      · rw [hreading]
        refine ⟨hnext, ?_⟩
        intro other hother
        obtain rfl := Option.some.inj (hticking.symm.trans hother)
        exact hstamp
      · rw [hreading]
        refine ⟨hnext.trans hcell, ?_⟩
        intro snapshot hsome
        rcases hticking with hkept | hgone
        · exact hsnapshot snapshot (hkept.symm.trans hsome)
        · rw [hgone] at hsome
          cases hsome

theorem timestamp_of_emitted (run : Run (step encode) (started config) trace final)
    {snapshot : Tagged (StateSnapshot F)} (h : emitted (final, label) = some snapshot) :
    snapshot.item.timestampUs = lastTick trace := by
  unfold emitted at h
  split at h
  · rename_i held heq
    obtain ⟨rfl, _⟩ := Prod.mk.inj heq
    obtain ⟨ticked, hticking, rfl⟩ := Option.map_eq_some_iff.mp h
    exact (clock_of_run run).2 ticked hticking
  · cases h

end Clock

/-! ## Packets under way -/

section Packets

variable {F : Type} [Float64 F]

/-- What the load of the cell leads to: a value to observe, or nothing. -/
def observed : Delivery F × DeliveryLabel F → Option (Observation F)
  | (delivery, .load) =>
      match delivery.dispatcher with
      | .loading origin nowUs =>
          (diffMs nowUs delivery.snapshotTimestampUs).map fun ms => ⟨origin, nowUs, ms⟩
      | _ => none
  | _ => none

theorem observed_eq_some_iff {delivery : Delivery F} {label : DeliveryLabel F}
    {observation : Observation F} :
    observed (delivery, label) = some observation ↔
      label = .load ∧ delivery.dispatcher = .loading observation.origin observation.nowUs ∧
        diffMs observation.nowUs delivery.snapshotTimestampUs = some observation.ms := by
  constructor
  · intro h
    unfold observed at h
    split at h
    · rename_i loading heq
      obtain ⟨rfl, rfl⟩ := Prod.mk.inj heq
      split at h
      · rename_i origin nowUs hdispatcher
        obtain ⟨ms, hdiff, rfl⟩ := Option.map_eq_some_iff.mp h
        exact ⟨rfl, hdispatcher, hdiff⟩
      · cases h
    · cases h
  · intro hload
    obtain ⟨rfl, hdispatcher, hdiff⟩ := hload
    simp [observed, hdispatcher, hdiff]

variable [Libm F] {encode : OscBundle F → Option (List UInt8)} {delivery next : Delivery F}
  {label : DeliveryLabel F}

/-- A step adds the first of the pending additions to the histogram, or queues those of
the value it observes. -/
theorem Moves.additions (moves : Moves encode delivery label next) :
    ∃ added, next.latencyHistogram = added.foldl .add delivery.latencyHistogram ∧
      added ++ next.dispatcher.pending =
        delivery.dispatcher.pending ++
          (observed (delivery, label)).toList.flatMap fun seen => observe seen.ms := by
  cases moves with
  | recorded operation rest hdispatcher =>
      refine ⟨[operation], rfl, ?_⟩
      cases rest <;> simp [OscDispatcher.pending, observed, hdispatcher]
  | loadNone origin nowUs hdispatcher hdiff =>
      exact ⟨[], rfl, by simp [OscDispatcher.pending, observed, hdispatcher, hdiff]⟩
  | loadSome origin nowUs ms hdispatcher hdiff =>
      exact ⟨[], rfl, by simp [OscDispatcher.pending, observed, hdispatcher, hdiff]⟩
  | _ =>
      refine ⟨[], rfl, ?_⟩
      simp_all [OscDispatcher.pending, observed, stopEngine]

/-- A packet at hand was at hand before, or its bundle is dispatched now. -/
theorem Moves.sent (moves : Moves encode delivery label next) {origin : ℕ}
    (h : next.dispatcher.sent = some origin) :
    delivery.dispatcher.sent = some origin ∨
      ∃ bundle, dispatched encode (delivery, label) = some bundle ∧
        bundle.origin = origin := by
  cases moves with
  | stamped now params backends packet hdispatcher hencode =>
      refine .inr ⟨⟨params.origin, oscBundle params.item now⟩, ?_, Option.some.inj h⟩
      simp [dispatched, bundled, hdispatcher, hencode]
  | offered number packet backend rest hdispatcher =>
      exact .inl (by rw [hdispatcher]; exact h)
  | sendToOk number packet backend rest hdispatcher =>
      exact .inl (by rw [hdispatcher]; exact h)
  | sendToErr number packet backend rest hdispatcher =>
      exact .inl (by rw [hdispatcher]; exact h)
  | credited number packet rest hdispatcher =>
      exact .inl (by rw [hdispatcher]; exact h)
  | clockRead nowUs number packet hdispatcher =>
      exact .inl (by rw [hdispatcher]; exact h)
  | recorded operation rest => cases rest <;> cases h
  | _ =>
      -- the dispatcher is as it was, or it has no packet now
      first | exact .inl h | cases h

/-- The bundle was made from the snapshot and dispatched, both in the history. -/
structure SentFrom (encode : OscBundle F → Option (List UInt8))
    (history : List (Delivery F × DeliveryLabel F)) (origin : ℕ)
    (snapshot : StateSnapshot F) : Prop where
  emitted : WasEmitted history ⟨origin, snapshot⟩
  dispatched : ∃ visit ∈ history, ∃ bundle rules,
    Delivery.dispatched encode visit = some ⟨origin, bundle⟩ ∧
      IsBundle snapshot.metrics rules bundle

variable {config : Config F} {trace : List (Delivery F × DeliveryLabel F)}
  {final : Delivery F}

/-- The histogram holds the additions of the observed values in their order, but for those
the dispatcher has still to make. -/
theorem histogram_of_run (run : Run (step encode) (started config) trace final) :
    ∃ added, final.latencyHistogram = added.foldl .add .default ∧
      added ++ final.dispatcher.pending =
        (trace.filterMap observed).flatMap fun seen => observe seen.ms := by
  induction run with
  | nil => exact ⟨[], rfl, rfl⟩
  | @snoc trace before next label _ taken ih =>
      obtain ⟨earlier, hearlier, hpending⟩ := ih
      obtain ⟨added, hadded, hrest⟩ := (step_moves taken).additions
      refine ⟨earlier ++ added, ?_, ?_⟩
      · rw [List.foldl_append, ← hearlier, hadded]
      · rw [List.append_assoc, hrest, ← List.append_assoc, hpending, List.filterMap_append,
          List.flatMap_append]
        cases hseen : observed (before, label) <;> simp [hseen]

theorem sentFrom_of_sent (run : Run (step encode) (started config) trace final) {origin : ℕ}
    (h : final.dispatcher.sent = some origin) :
    ∃ snapshot, SentFrom encode trace origin snapshot := by
  induction run with
  | nil => cases h
  | @snoc trace before next label earlier taken ih =>
      rcases (step_moves taken).sent h with hbefore | ⟨bundle, hdispatched, rfl⟩
      · obtain ⟨snapshot, ⟨visit, hmem, hemitted⟩, sent, hsent, hbundle⟩ := ih hbefore
        exact ⟨snapshot, ⟨visit, List.mem_append_left _ hmem, hemitted⟩, sent,
          List.mem_append_left _ hsent, hbundle⟩
      · obtain ⟨front, emission, between, reading, after, snapshot, rfl, hemission, hbundle⟩ :=
          made_of_dispatched (earlier.snoc taken) rfl hdispatched
        exact ⟨snapshot, ⟨emission, by simp, hemission⟩, (before, label), by simp,
          bundle.item, _, hdispatched, hbundle⟩

end Packets

/-! ## Attribution -/

section Attribution

variable {F : Type} [Float64 F] [Libm F] {encode : OscBundle F → Option (List UInt8)}
  {config : Config F} {trace : List (Delivery F × DeliveryLabel F)} {final : Delivery F}

theorem wasEmitted_unique (run : Run (step encode) (started config) trace final)
    {left right : Tagged (StateSnapshot F)} (hleft : WasEmitted trace left)
    (hright : WasEmitted trace right) (horigin : left.origin = right.origin) :
    left = right := by
  have hnodup : ((trace.filterMap emitted).map Tagged.origin).Nodup := by
    rw [emitted_numbered run]
    exact List.nodup_range
  obtain ⟨first, hfirst, hleft⟩ := hleft
  obtain ⟨second, hsecond, hright⟩ := hright
  exact List.inj_on_of_nodup_map hnodup (List.mem_filterMap.mpr ⟨first, hfirst, hleft⟩)
    (List.mem_filterMap.mpr ⟨second, hsecond, hright⟩) horigin

theorem timestamp_of_split (run : Run (step encode) (started config) trace final)
    {before between : List (Delivery F × DeliveryLabel F)}
    {emission : Delivery F × DeliveryLabel F} {origin : ℕ} {snapshot : StateSnapshot F}
    (hsplit : trace = before ++ emission :: between)
    (horigin : (emitted emission).map Tagged.origin = some origin)
    (hemitted : WasEmitted trace ⟨origin, snapshot⟩) :
    snapshot.timestampUs = lastTick before := by
  obtain ⟨other, hother, hnumber⟩ := Option.map_eq_some_iff.mp horigin
  have hsame : other = ⟨origin, snapshot⟩ :=
    wasEmitted_unique run ⟨emission, by simp [hsplit], hother⟩ hemitted hnumber
  subst hsplit
  obtain ⟨hbefore, _⟩ := run.at_visit
  have hstamp := timestamp_of_emitted hbefore hother
  rw [hsame] at hstamp
  exact hstamp

/-- Whenever a latency is about to be observed, the last tick read the clock as the tick
behind the emission of the bundle did. -/
def UpToDate (trace : List (Delivery F × DeliveryLabel F)) : Prop :=
  ∀ before emission between visit back origin nowUs,
    trace = before ++ emission :: between ++ visit :: back →
      (emitted emission).map Tagged.origin = some origin →
        visit.2 = .load → visit.1.dispatcher = .loading origin nowUs →
          0 < lastTick (before ++ emission :: between) →
            lastTick (before ++ emission :: between) ≤ nowUs →
              lastTick (before ++ emission :: between) = lastTick before

section Exact

variable {K : Type} [Field K] [LinearOrder K] [IsStrictOrderedRing K] [FloorRing K] [Libm K]
  {encode : OscBundle K → Option (List UInt8)} {config : Config K}
  {trace : List (Delivery K × DeliveryLabel K)} {final : Delivery K}

/-- Every observed value is the time from the snapshot of the bundle to the reading after
the sends, in milliseconds. -/
def Attributed (encode : OscBundle K → Option (List UInt8))
    (trace : List (Delivery K × DeliveryLabel K)) : Prop :=
  ∀ front visit back observation, trace = front ++ visit :: back →
    observed visit = some observation →
      ∃ snapshot, SentFrom encode front observation.origin snapshot ∧
        observation.ms =
          ((observation.nowUs.toNat : K) - snapshot.timestampUs.toNat) / 1000

/-- An observed value is right for a snapshot exactly when the last tick read the
snapshot's time. -/
theorem ms_eq_iff (run : Run (step encode) (started config) trace final)
    {label : DeliveryLabel K} {observation : Observation K}
    (h : observed (final, label) = some observation) (timestampUs : UInt64) :
    observation.ms = ((observation.nowUs.toNat : K) - timestampUs.toNat) / 1000 ↔
      lastTick trace = timestampUs := by
  obtain ⟨_, _, hdiff⟩ := observed_eq_some_iff.mp h
  rw [(clock_of_run run).1] at hdiff
  have hthousand : (1000 : K) ≠ 0 := by norm_num
  rw [diffMs_exact hdiff, div_left_inj' hthousand, sub_right_inj, Nat.cast_inj,
    UInt64.toNat_inj]

/-- Where every observed value is right, the cell was up to date at each load. -/
theorem upToDate_of_attributed (run : Run (step encode) (started config) trace final)
    (hright : Attributed encode trace) : UpToDate trace := by
  intro before emission between visit back origin nowUs hsplit horigin hload hloading
    hpositive hlate
  subst hsplit
  obtain ⟨hfront, _⟩ := run.at_visit
  obtain ⟨current, label⟩ := visit
  have hdiff : (diffMs nowUs current.snapshotTimestampUs : Option K) =
      some (Float64.div (Float64.ofNat (nowUs - current.snapshotTimestampUs).toNat)
        (Float64.lit 1000)) := by
    rw [(clock_of_run hfront).1]
    exact if_pos ⟨hpositive, hlate⟩
  have hobserved : observed (current, label) = some ⟨origin, nowUs, _⟩ :=
    observed_eq_some_iff.mpr ⟨hload, hloading, hdiff⟩
  obtain ⟨snapshot, hsent, hms⟩ := hright _ _ _ _ rfl hobserved
  have hstamp : snapshot.timestampUs = lastTick before :=
    timestamp_of_split hfront rfl horigin hsent.emitted
  rw [← hstamp]
  exact (ms_eq_iff hfront hobserved snapshot.timestampUs).mp hms

/-- Where the cell was up to date at each load, every observed value is right. -/
theorem attributed_of_upToDate (run : Run (step encode) (started config) trace final)
    (hcurrent : UpToDate trace) : Attributed encode trace := by
  intro front visit back observation hsplit hobserved
  subst hsplit
  obtain ⟨hfront, _⟩ := run.at_visit
  obtain ⟨current, label⟩ := visit
  obtain ⟨hload, hloading, hdiff⟩ := observed_eq_some_iff.mp hobserved
  have hsome : current.dispatcher.sent = some observation.origin := by
    rw [hloading]
    rfl
  obtain ⟨snapshot, hsent⟩ := sentFrom_of_sent hfront hsome
  refine ⟨snapshot, hsent, (ms_eq_iff hfront hobserved snapshot.timestampUs).mpr ?_⟩
  obtain ⟨emission, hmem, hemission⟩ := hsent.emitted
  obtain ⟨before, between, rfl⟩ := List.append_of_mem hmem
  have horigin : (emitted emission).map Tagged.origin = some observation.origin := by
    rw [hemission]
    rfl
  rw [timestamp_of_split hfront rfl horigin hsent.emitted]
  rw [(clock_of_run hfront).1] at hdiff
  unfold diffMs at hdiff
  split at hdiff
  · rename_i hguard
    exact hcurrent before emission between _ back _ _ rfl horigin hload hloading hguard.1
      hguard.2
  · cases hdiff

/-- The observed values of a run are right exactly when the cell was up to date at each
load. -/
theorem attributed_iff (run : Run (step encode) (started config) trace final) :
    Attributed encode trace ↔ UpToDate trace :=
  ⟨upToDate_of_attributed run, attributed_of_upToDate run⟩

end Exact

omit [Float64 F] [Libm F] in
theorem upToDate_of_single {first : Delivery F × DeliveryLabel F}
    {rest : List (Delivery F × DeliveryLabel F)} (hfirst : emitted first = none)
    (hrest : rest.filterMap reading = []) : UpToDate (first :: rest) := by
  intro before emission between visit back origin nowUs hsplit horigin _ _ _ _
  cases before with
  | nil =>
      obtain ⟨rfl, _⟩ := List.cons.inj hsplit
      rw [hfirst] at horigin
      cases horigin
  | cons head before =>
      obtain ⟨_, rfl⟩ := List.cons.inj hsplit
      apply lastTick_append_of_none
      intro quiet hquiet
      apply List.filterMap_eq_nil_iff.mp hrest quiet
      exact List.mem_append_left _ (List.mem_append_right _ hquiet)

end Attribution

/-! ## Two orders -/

/-- Where the result is rational; `0` stands for all others. -/
instance : Libm ℚ where
  powf a b := if b.den = 1 then a ^ b.num else 0
  powi a n := a ^ n
  ln _ := 0

/-- A bundle that is sent before the next tick is observed with its own time. -/
theorem attributed_iff_single :
    ∃ trace final, Run (step encodeZeros) (started (oneRule : Config ℚ)) trace final ∧
      (trace.filterMap observed).map Observation.nowUs = [1004000] ∧
      Attributed encodeZeros trace := by
  have run : Run (step encodeZeros) (started (oneRule : Config ℚ)) _ _ :=
    execute_sound (oneSent ++ [.readClock 1004000, .load]) rfl
  exact ⟨_, _, run, rfl, (attributed_iff run).mpr (upToDate_of_single rfl rfl)⟩

/-- With a tick 50 ms later, before the dispatcher loads the cell, 10 ms are observed
for a bundle 60 ms old. -/
theorem not_always_attributed :
    ¬ ∀ (config : Config ℚ) (trace : List (Delivery ℚ × DeliveryLabel ℚ))
        (final : Delivery ℚ),
        Run (step encodeZeros) (started config) trace final →
          Attributed encodeZeros trace := by
  intro hclaim
  have run : Run (step encodeZeros) (started (oneRule : Config ℚ)) _ _ :=
    execute_sound (oneSent ++ [.tick 1050000 0, .readClock 1060000, .load]) rfl
  have hcurrent := upToDate_of_attributed run (hclaim _ _ _ run)
  have hsame : (1050000 : UInt64) = 1000000 :=
    hcurrent [_] _ [_, _, _, _, _, _, _, _, _, _, _] _ [] 0 1060000 rfl rfl rfl rfl
      (by decide) (by decide)
  cases hsame

end Delivery

end DaemonChoir.Conductor
