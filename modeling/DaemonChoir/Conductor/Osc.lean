import DaemonChoir.Common.Time
import DaemonChoir.Conductor.Mapping
set_option autoImplicit false

/-!
# Conductor: bundles and latencies (`conductor/src/osc.rs`)

What the dispatcher computes from a parameter list and from two clock readings, and
the counters it updates, one atomic operation at a time.
-/

namespace DaemonChoir.Conductor

open DaemonChoir.Common Float64

/-! ## Bundles -/

/-- `rosc::OscTime`: NTP seconds and fraction. -/
structure OscTime where
  seconds : UInt32
  fractional : UInt32
  deriving DecidableEq, Repr, Inhabited

/-- `rosc::OscMessage` with arguments of type `OscType::Float`. -/
structure OscMessage (F : Type) where
  addr : String
  args : List F
  deriving DecidableEq, Repr, Inhabited

/-- `rosc::OscBundle` of messages. -/
structure OscBundle (F : Type) where
  timetag : OscTime
  content : List (OscMessage F)
  deriving DecidableEq, Repr, Inhabited

/-- `osc_timetag`. -/
def oscTimetag (now : SystemTime) : OscTime :=
  let duration := now.sinceEpoch
  let secs := UInt32.ofNat duration.asSecs
  let nanos := UInt64.ofNat duration.subsecNanos
  let frac := ((nanos <<< 32) / 1000000000).toUInt32
  { seconds := secs, fractional := frac }

section Bundle

variable {F : Type} [Float64 F]

/-- One iteration of the loop over `params`. -/
def oscMessage (param : MappedParam F) : OscMessage F :=
  { addr := param.oscAddress, args := [asF32 param.value] }

/-- `osc_messages`. -/
def oscMessages (params : List (MappedParam F)) : List (OscMessage F) :=
  params.map oscMessage

/-- `bundle`. -/
def oscBundle (params : List (MappedParam F)) (now : SystemTime) : OscBundle F :=
  { timetag := oscTimetag now, content := oscMessages params }

end Bundle

/-! ## Counters -/

/-- `OscMetrics`. -/
structure OscMetrics where
  oscDispatchTotal : UInt64
  oscDispatchSuccessTotal : UInt64
  deriving DecidableEq, Repr, Inhabited

/-- `PrometheusHistogram`. -/
structure PrometheusHistogram where
  sumUs : UInt64
  count : UInt64
  bucketLe5 : UInt64
  bucketLe10 : UInt64
  bucketLe20 : UInt64
  deriving DecidableEq, Repr, Inhabited

/-- `impl Default for PrometheusHistogram`. -/
def PrometheusHistogram.default : PrometheusHistogram := ⟨0, 0, 0, 0, 0⟩

/-- One `fetch_add` of `observe`. -/
inductive HistogramAdd where
  | sumUs (us : UInt64)
  | count
  | bucketLe5
  | bucketLe10
  | bucketLe20
  deriving DecidableEq, Repr, Inhabited

/-- The effect of a `fetch_add`. -/
def PrometheusHistogram.add (histogram : PrometheusHistogram) :
    HistogramAdd → PrometheusHistogram
  | .sumUs us => { histogram with sumUs := histogram.sumUs + us }
  | .count => { histogram with count := histogram.count + 1 }
  | .bucketLe5 => { histogram with bucketLe5 := histogram.bucketLe5 + 1 }
  | .bucketLe10 => { histogram with bucketLe10 := histogram.bucketLe10 + 1 }
  | .bucketLe20 => { histogram with bucketLe20 := histogram.bucketLe20 + 1 }

section Latency

variable {F : Type} [Float64 F]

/-- `as u64` on an `f64`: cut at the top of the type. -/
def asU64 (a : F) : UInt64 := UInt64.ofNat (min (toNat a) (2 ^ 64 - 1))

/-- `PrometheusHistogram::observe`, as its atomic operations in order. -/
def observe (ms : F) : List HistogramAdd :=
  [.sumUs (asU64 (mul ms (lit 1000))), .count] ++
    (if le ms (lit 5) then [.bucketLe5] else []) ++
    (if le ms (lit 10) then [.bucketLe10] else []) ++
    (if le ms (lit 20) then [.bucketLe20] else [])

/-- `diff_ms`, when the latency is observed at all. -/
def diffMs (nowUs startUs : UInt64) : Option F :=
  if 0 < startUs ∧ startUs ≤ nowUs then
    some (div (ofNat (nowUs - startUs).toNat) (lit 1000))
  else none

end Latency

section Exact

variable {K : Type} [Field K] [LinearOrder K] [IsStrictOrderedRing K] [FloorRing K]

theorem diffMs_exact {nowUs startUs : UInt64} {ms : K}
    (h : diffMs nowUs startUs = some ms) :
    ms = ((nowUs.toNat : K) - startUs.toNat) / 1000 := by
  unfold diffMs at h
  split at h
  · rename_i hlate
    have hle : startUs.toNat ≤ nowUs.toNat := UInt64.le_iff_toNat_le.mp hlate.2
    rw [← Option.some.inj h, UInt64.toNat_sub_of_le _ _ hlate.2]
    simp [Nat.cast_sub hle]
  · cases h

end Exact

end DaemonChoir.Conductor
