set_option autoImplicit false

/-!
# Common: clocks

`std::time` as far as the daemon uses it: a wall clock that may be set before 1970
or step back, and durations in whole nanoseconds.
-/

namespace DaemonChoir.Common

/-- `std::time::Duration`. -/
structure Duration where
  nanos : Nat
  deriving DecidableEq, Repr, Inhabited

/-- `Duration::from_millis`. -/
def Duration.fromMillis (millis : UInt64) : Duration := ⟨millis.toNat * 1000000⟩

theorem Duration.fromMillis_inj {left right : UInt64}
    (h : fromMillis left = fromMillis right) : left = right := by
  have hnanos : left.toNat * 1000000 = right.toNat * 1000000 := congrArg Duration.nanos h
  apply UInt64.toNat_inj.mp
  omega

/-- `Duration::as_micros`. -/
def Duration.asMicros (duration : Duration) : Nat := duration.nanos / 1000

/-- `Duration::as_secs`. -/
def Duration.asSecs (duration : Duration) : Nat := duration.nanos / 1000000000

/-- `Duration::subsec_nanos`. -/
def Duration.subsecNanos (duration : Duration) : Nat := duration.nanos % 1000000000

/-- `std::time::SystemTime`, in nanoseconds since the epoch. -/
structure SystemTime where
  nanos : Int
  deriving DecidableEq, Repr, Inhabited

/-- `duration_since(UNIX_EPOCH).unwrap_or(Duration::ZERO)`. -/
def SystemTime.sinceEpoch (now : SystemTime) : Duration := ⟨now.nanos.toNat⟩

/-- `duration_since(UNIX_EPOCH).unwrap_or(Duration::ZERO).as_micros() as u64`. -/
def SystemTime.nowUs (now : SystemTime) : UInt64 :=
  UInt64.ofNat now.sinceEpoch.asMicros

end DaemonChoir.Common
