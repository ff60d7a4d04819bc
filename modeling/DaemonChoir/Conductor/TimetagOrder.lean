import DaemonChoir.Conductor.Timetag
set_option autoImplicit false

/-!
# Conductor: the order of timetags

The fraction of a timetag counts a second in `2 ^ 32` parts.  These are finer than
nanoseconds, so that the conversion neither loses a nanosecond nor swaps two readings of
the clock.
-/

namespace DaemonChoir.Conductor

open DaemonChoir.Common DaemonChoir.Foundation

/-! ## One reading -/

/-- The fraction before it is cast to 32 bits. -/
def wideFraction (duration : Duration) : UInt64 :=
  (UInt64.ofNat duration.subsecNanos <<< 32) / 1000000000

theorem wideFraction_toNat (duration : Duration) :
    (wideFraction duration).toNat =
      rescale 1000000000 (2 ^ 32) duration.subsecNanos := by
  rw [wideFraction, UInt64.toNat_div, shift_toNat]
  rfl

theorem fractional_eq_rescale (now : SystemTime) :
    (oscTimetag now).fractional.toNat =
      rescale 1000000000 (2 ^ 32) now.sinceEpoch.subsecNanos :=
  oscTimetag_fractional now

theorem seconds_toNat {now : SystemTime} (h : now.sinceEpoch.asSecs < 2 ^ 32) :
    (oscTimetag now).seconds.toNat = now.sinceEpoch.asSecs :=
  (UInt32.toNat_ofNat' ..).trans (Nat.mod_eq_of_lt h)

/-- What the conversion of a reading keeps: no width is exceeded on the way, and both
seconds and nanoseconds can be read back. -/
structure Lossless (now : SystemTime) : Prop where
  shift : (UInt64.ofNat now.sinceEpoch.subsecNanos <<< 32).toNat =
    now.sinceEpoch.subsecNanos * 2 ^ 32
  fits : (wideFraction now.sinceEpoch).toNat < 2 ^ 32
  cast : (oscTimetag now).fractional.toNat = (wideFraction now.sinceEpoch).toNat
  seconds : (oscTimetag now).seconds.toNat = now.sinceEpoch.asSecs
  nanos : (oscTimetag now).fractional.toNat * 1000000000 ⌈/⌉ 2 ^ 32 =
    now.sinceEpoch.subsecNanos

theorem lossless_of_asSecs_lt {now : SystemTime} (h : now.sinceEpoch.asSecs < 2 ^ 32) :
    Lossless now where
  shift := shift_toNat _
  fits := by
    rw [wideFraction_toNat]
    exact Rescale.rescale_lt (subsecNanos_lt _) (by decide)
  cast := by rw [wideFraction_toNat, fractional_eq_rescale]
  seconds := seconds_toNat h
  nanos := by
    rw [fractional_eq_rescale]
    exact Rescale.ceilDiv_rescale (by decide) (by decide)

/-! ## Two readings -/

/-- Timetags are compared by their seconds, then by their fractions. -/
def OscTime.Earlier (left right : OscTime) : Prop :=
  left.seconds < right.seconds ∨
    left.seconds = right.seconds ∧ left.fractional < right.fractional

theorem earlier_of_lt {now₁ now₂ : SystemTime} (h₁ : now₁.sinceEpoch.asSecs < 2 ^ 32)
    (h₂ : now₂.sinceEpoch.asSecs < 2 ^ 32)
    (h : now₁.sinceEpoch.nanos < now₂.sinceEpoch.nanos) :
    (oscTimetag now₁).Earlier (oscTimetag now₂) := by
  rw [OscTime.Earlier, UInt32.lt_iff_toNat_lt, UInt32.lt_iff_toNat_lt, ← UInt32.toNat_inj,
    seconds_toNat h₁, seconds_toNat h₂, fractional_eq_rescale, fractional_eq_rescale]
  exact Rescale.lex_of_lt (by decide) (by decide) h

theorem timetag_lossless {now₁ now₂ : SystemTime} (h₁ : now₁.sinceEpoch.asSecs < 2 ^ 32)
    (h₂ : now₂.sinceEpoch.asSecs < 2 ^ 32) :
    Lossless now₁ ∧ (now₁.sinceEpoch.nanos < now₂.sinceEpoch.nanos →
      (oscTimetag now₁).Earlier (oscTimetag now₂)) :=
  ⟨lossless_of_asSecs_lt h₁, earlier_of_lt h₁ h₂⟩

/-- The last nanosecond of a second and the first of the next. -/
theorem timetag_lossless_second :
    Lossless ⟨1999999999⟩ ∧
      (oscTimetag ⟨1999999999⟩).Earlier (oscTimetag ⟨2000000000⟩) := by
  have hlast : (⟨1999999999⟩ : SystemTime).sinceEpoch.asSecs < 2 ^ 32 := by decide
  have hfirst : (⟨2000000000⟩ : SystemTime).sinceEpoch.asSecs < 2 ^ 32 := by decide
  obtain ⟨hlossless, hearlier⟩ := timetag_lossless hlast hfirst
  exact ⟨hlossless, hearlier (by decide)⟩

/-! ## Dispatched bundles -/

namespace Delivery

variable {F : Type} [Float64 F] {encode : OscBundle F → Option (List UInt8)}
  {trace : List (Delivery F × DeliveryLabel F)}

/-- The clock readings of the dispatcher, as far as its bundles were encoded. -/
def dispatchClock (encode : OscBundle F → Option (List UInt8))
    (visit : Delivery F × DeliveryLabel F) : Option SystemTime :=
  if (dispatched encode visit).isSome then
    match visit.2 with
    | .stamp now => some now
    | _ => none
  else none

/-- While the clock goes forward, no bundle carries an equal or an earlier timetag than one
sent before it. -/
theorem timetags_increase
    (hwidth : ∀ now ∈ trace.filterMap (dispatchClock encode),
      now.sinceEpoch.asSecs < 2 ^ 32)
    (hclock : (trace.filterMap (dispatchClock encode)).Pairwise
      fun now₁ now₂ => now₁.sinceEpoch.nanos < now₂.sinceEpoch.nanos) :
    (trace.filterMap (dispatched encode)).Pairwise
      fun bundle₁ bundle₂ => bundle₁.item.timetag.Earlier bundle₂.item.timetag := by
  have hread : ∀ visit bundle, dispatched encode visit = some bundle →
      ∃ now, dispatchClock encode visit = some now ∧
        bundle.item.timetag = oscTimetag now := by
    intro visit bundle hdispatched
    obtain ⟨now, hstamp, htimetag⟩ := timetag_of_dispatched hdispatched
    exact ⟨now, by rw [dispatchClock, hdispatched, hstamp]; rfl, htimetag⟩
  rw [List.pairwise_filterMap] at hclock ⊢
  apply hclock.imp_of_mem
  intro visit₁ visit₂ hmem₁ hmem₂ hbefore bundle₁ hbundle₁ bundle₂ hbundle₂
  obtain ⟨now₁, hnow₁, htimetag₁⟩ := hread visit₁ bundle₁ hbundle₁
  obtain ⟨now₂, hnow₂, htimetag₂⟩ := hread visit₂ bundle₂ hbundle₂
  rw [htimetag₁, htimetag₂]
  exact earlier_of_lt (hwidth now₁ (List.mem_filterMap.mpr ⟨visit₁, hmem₁, hnow₁⟩))
    (hwidth now₂ (List.mem_filterMap.mpr ⟨visit₂, hmem₂, hnow₂⟩))
    (hbefore now₁ hnow₁ now₂ hnow₂)

end Delivery

end DaemonChoir.Conductor
