import DaemonChoir.Conductor.DispatchLatency
import DaemonChoir.Foundation.Rescale
set_option autoImplicit false

/-!
# Conductor: what a timetag tells

A timetag is an NTP time, counted from 1900.  The dispatcher fills it with its own clock
at the time of sending, counted from 1970, so that it is the time of the sample only
where these two errors cancel.
-/

namespace DaemonChoir.Conductor

open DaemonChoir.Common DaemonChoir.Foundation

/-! ## The two times -/

/-- The NTP time of a moment in microseconds since 1970. -/
def ntpTimetag (timestampUs : UInt64) : OscTime where
  seconds := UInt32.ofNat (timestampUs.toNat / 1000000 + 2208988800)
  fractional := UInt32.ofNat (timestampUs.toNat % 1000000 * 2 ^ 32 / 1000000)

/-- The reading stands the seconds from 1900 to 1970 after the moment, up to a full turn of
the 32-bit seconds. -/
structure EpochApart (now : SystemTime) (timestampUs : UInt64) : Prop where
  seconds : now.sinceEpoch.asSecs % 2 ^ 32 =
    (timestampUs.toNat / 1000000 + 2208988800) % 2 ^ 32
  nanos : now.sinceEpoch.subsecNanos = timestampUs.toNat % 1000000 * 1000

theorem subsecNanos_lt (duration : Duration) : duration.subsecNanos < 1000000000 :=
  Nat.mod_lt _ (by decide)

theorem shift_toNat (duration : Duration) :
    (UInt64.ofNat duration.subsecNanos <<< 32).toNat = duration.subsecNanos * 2 ^ 32 := by
  have hlt := subsecNanos_lt duration
  have hamount : (32 : UInt64).toNat % 64 = 32 := rfl
  rw [UInt64.toNat_shiftLeft, UInt64.toNat_ofNat', Nat.shiftLeft_eq, hamount]
  omega

theorem oscTimetag_fractional (now : SystemTime) :
    (oscTimetag now).fractional.toNat = now.sinceEpoch.subsecNanos * 2 ^ 32 / 1000000000 := by
  have hlt := subsecNanos_lt now.sinceEpoch
  have hbillion : (1000000000 : UInt64).toNat = 1000000000 := rfl
  simp only [oscTimetag, UInt64.toNat_toUInt32, UInt64.toNat_div, shift_toNat, hbillion]
  omega

theorem ntpTimetag_fractional (timestampUs : UInt64) :
    (ntpTimetag timestampUs).fractional.toNat =
      timestampUs.toNat % 1000000 * 2 ^ 32 / 1000000 := by
  rw [ntpTimetag, UInt32.toNat_ofNat']
  omega

/-- A nanosecond is more than four units of the fraction, so equal fractions are equal
nanoseconds. -/
theorem fractional_eq_iff {nanos micros : ℕ} :
    nanos * 2 ^ 32 / 1000000000 = micros * 2 ^ 32 / 1000000 ↔ nanos = micros * 1000 := by
  have hscaled : micros * 2 ^ 32 / 1000000 = micros * 1000 * 2 ^ 32 / 1000000000 := by omega
  rw [hscaled]
  exact Rescale.rescale_inj (by decide) (by decide)

theorem oscTimetag_eq_iff (now : SystemTime) (timestampUs : UInt64) :
    oscTimetag now = ntpTimetag timestampUs ↔ EpochApart now timestampUs := by
  have hseconds : (oscTimetag now).seconds = (ntpTimetag timestampUs).seconds ↔
      now.sinceEpoch.asSecs % 2 ^ 32 =
        (timestampUs.toNat / 1000000 + 2208988800) % 2 ^ 32 := by
    rw [← UInt32.toNat_inj, oscTimetag, ntpTimetag, UInt32.toNat_ofNat', UInt32.toNat_ofNat']
  have hfractional : (oscTimetag now).fractional = (ntpTimetag timestampUs).fractional ↔
      now.sinceEpoch.subsecNanos = timestampUs.toNat % 1000000 * 1000 := by
    rw [← UInt32.toNat_inj, oscTimetag_fractional, ntpTimetag_fractional]
    exact fractional_eq_iff
  constructor
  · intro h
    exact ⟨hseconds.mp (congrArg OscTime.seconds h),
      hfractional.mp (congrArg OscTime.fractional h)⟩
  · intro h
    cases hosc : oscTimetag now
    cases hntp : ntpTimetag timestampUs
    rw [hosc, hntp] at hseconds hfractional
    rw [OscTime.mk.injEq]
    exact ⟨hseconds.mpr h.seconds, hfractional.mpr h.nanos⟩

/-! ## Dispatched bundles -/

namespace Delivery

section Runs

variable {F : Type} [Float64 F] [Libm F] {encode : OscBundle F → Option (List UInt8)}
  {config : Config F} {trace : List (Delivery F × DeliveryLabel F)} {final : Delivery F}

omit [Libm F] in
theorem timetag_of_dispatched {visit : Delivery F × DeliveryLabel F}
    {bundle : Tagged (OscBundle F)} (h : dispatched encode visit = some bundle) :
    ∃ now, visit.2 = .stamp now ∧ bundle.item.timetag = oscTimetag now := by
  obtain ⟨params, now, hstamp, _, _, hbundle⟩ := dispatched_eq_some h
  exact ⟨now, hstamp, congrArg OscBundle.timetag hbundle⟩

/-- Every dispatched bundle was computed from an emitted snapshot and carries the NTP time
of that snapshot. -/
def SampleTimed (encode : OscBundle F → Option (List UInt8))
    (trace : List (Delivery F × DeliveryLabel F)) : Prop :=
  ∀ visit ∈ trace, ∀ bundle, dispatched encode visit = some bundle →
    ∃ snapshot rules, WasEmitted trace ⟨bundle.origin, snapshot⟩ ∧
      IsBundle snapshot.metrics rules bundle.item ∧
      bundle.item.timetag = ntpTimetag snapshot.timestampUs

/-- Every dispatch reads its clock the seconds from 1900 to 1970 after the time of the
snapshot. -/
def StampedApart (encode : OscBundle F → Option (List UInt8))
    (trace : List (Delivery F × DeliveryLabel F)) : Prop :=
  ∀ visit ∈ trace, ∀ bundle, dispatched encode visit = some bundle →
    ∀ now snapshot, visit.2 = .stamp now → WasEmitted trace ⟨bundle.origin, snapshot⟩ →
      EpochApart now snapshot.timestampUs

theorem wasEmitted_of_dispatched (run : Run (step encode) (started config) trace final)
    {visit : Delivery F × DeliveryLabel F} (hmem : visit ∈ trace)
    {bundle : Tagged (OscBundle F)} (h : dispatched encode visit = some bundle) :
    ∃ snapshot rules, WasEmitted trace ⟨bundle.origin, snapshot⟩ ∧
      IsBundle snapshot.metrics rules bundle.item := by
  obtain ⟨front, back, rfl⟩ := List.append_of_mem hmem
  obtain ⟨before, emission, between, reading, after, snapshot, rfl, hemission, hbundle⟩ :=
    made_of_dispatched run rfl h
  exact ⟨snapshot, _, ⟨emission, by simp, hemission⟩, hbundle⟩

/-- The timetags of a run are sample times exactly when every dispatch reads its clock that
much later. -/
theorem sampleTimed_iff (run : Run (step encode) (started config) trace final) :
    SampleTimed encode trace ↔ StampedApart encode trace := by
  constructor
  · intro htimed visit hmem bundle hdispatched now snapshot hstamp hemitted
    obtain ⟨other, _, hother, _, htimetag⟩ := htimed visit hmem bundle hdispatched
    obtain ⟨reading, hreading, hclock⟩ := timetag_of_dispatched hdispatched
    obtain rfl : reading = now := DeliveryLabel.stamp.inj (hreading.symm.trans hstamp)
    have hsame := wasEmitted_unique run hother hemitted rfl
    obtain rfl : other = snapshot := congrArg Tagged.item hsame
    exact (oscTimetag_eq_iff _ _).mp (hclock.symm.trans htimetag)
  · intro happart visit hmem bundle hdispatched
    obtain ⟨snapshot, rules, hemitted, hbundle⟩ :=
      wasEmitted_of_dispatched run hmem hdispatched
    obtain ⟨now, hstamp, hclock⟩ := timetag_of_dispatched hdispatched
    have hepoch := happart visit hmem bundle hdispatched now snapshot hstamp hemitted
    refine ⟨snapshot, rules, hemitted, hbundle, ?_⟩
    rw [hclock]
    exact (oscTimetag_eq_iff _ _).mpr hepoch

end Runs

/-! ## Two clocks -/

/-- A clock that reads one second after 1970 in NTP time. -/
def ntpClock : SystemTime := ⟨2208988801000000000⟩

/-- The sample of that moment on its way to the socket, under that clock. -/
def clockedSent : List (DeliveryLabel ℚ) :=
  [.tick 1000000 0, .emit, .receiveSnapshot, .readRules, .sendParams, .receiveParams,
    .readBackends, .stamp ntpClock]

/-- A dispatcher whose clock counts from 1900 says the time of the sample. -/
theorem sampleTimed_iff_ntp :
    ∃ trace final, Run (step encodeZeros) (started (oneRule : Config ℚ)) trace final ∧
      (trace.filterMap (dispatched encodeZeros)).length = 1 ∧
      SampleTimed encodeZeros trace := by
  have run : Run (step encodeZeros) (started (oneRule : Config ℚ)) _ _ :=
    execute_sound clockedSent rfl
  refine ⟨_, _, run, rfl, (sampleTimed_iff run).mpr ?_⟩
  intro visit hmem bundle hdispatched now snapshot hstamp hemitted
  have hlabel : DeliveryLabel.stamp now ∈ clockedSent := by
    rw [← hstamp]
    exact List.mem_map_of_mem hmem
  have hnow : now = ntpClock := by simpa [clockedSent] using hlabel
  have horigin : bundle.origin ∈ [0] :=
    List.mem_map_of_mem (List.mem_filterMap.mpr ⟨visit, hmem, hdispatched⟩)
  have hsame := wasEmitted_unique run hemitted
    ⟨_, List.mem_of_getElem? (i := 1) rfl, rfl⟩ (List.mem_singleton.mp horigin)
  have htime : snapshot.timestampUs = 1000000 :=
    congrArg (fun emission => emission.item.timestampUs) hsame
  rw [hnow, htime]
  exact ⟨by decide, by decide⟩

/-- Under a clock that counts from 1970, a bundle that waited a millisecond says one second and
a millisecond after 1900, not one second after 1970. -/
theorem not_always_sampleTimed :
    ¬ ∀ (config : Config ℚ) (trace : List (Delivery ℚ × DeliveryLabel ℚ))
        (final : Delivery ℚ),
        Run (step encodeZeros) (started config) trace final →
          SampleTimed encodeZeros trace := by
  intro hclaim
  have run : Run (step encodeZeros) (started (oneRule : Config ℚ)) _ _ :=
    execute_sound oneSent rfl
  obtain ⟨snapshot, _, hother, _, htimetag⟩ :=
    hclaim _ _ _ run _ (List.mem_of_getElem? (i := 7) rfl) _ rfl
  have hsame := wasEmitted_unique run hother
    ⟨_, List.mem_of_getElem? (i := 1) rfl, rfl⟩ rfl
  have htime : snapshot.timestampUs = 1000000 :=
    congrArg (fun emission => emission.item.timestampUs) hsame
  rw [htime] at htimetag
  have hseconds : (1 : UInt32) = 2208988801 := congrArg OscTime.seconds htimetag
  cases hseconds

end Delivery

end DaemonChoir.Conductor
