import Mathlib.Algebra.Order.Ring.Nat
import Mathlib.Data.List.Basic
set_option autoImplicit false

/-!
# Foundation: integers in a byte string

Unsigned integers as little-endian bytes, and the integer that stands at an offset of a
byte string.  Reading at the offset where an integer was written gives the integer back,
whatever bytes stand around it.
-/

namespace DaemonChoir.Foundation

/-- The lowest `width` bytes of a number, least significant first. -/
def leBytes (width n : Nat) : List UInt8 :=
  (List.range width).map fun i => UInt8.ofNat (n / 256 ^ i)

/-- The number whose bytes these are, least significant first. -/
def leValue (bytes : List UInt8) : Nat :=
  bytes.foldr (fun byte rest => byte.toNat + 256 * rest) 0

/-- The number in `width` bytes from an offset on. -/
def field (offset width : Nat) (bytes : List UInt8) : Nat :=
  leValue ((bytes.drop offset).take width)

@[simp] theorem length_leBytes (width n : Nat) : (leBytes width n).length = width := by
  simp [leBytes]

theorem leBytes_succ (width n : Nat) :
    leBytes (width + 1) n = UInt8.ofNat n :: leBytes width (n / 256) := by
  unfold leBytes
  rw [List.range_succ_eq_map, List.map_cons, List.map_map, pow_zero, Nat.div_one]
  congr 1
  apply List.map_congr_left
  intro i _
  rw [Function.comp_apply, Nat.pow_succ', Nat.div_div_eq_div_mul]

/-- Reading bytes back keeps what fits into them. -/
theorem leValue_leBytes (width n : Nat) : leValue (leBytes width n) = n % 256 ^ width := by
  induction width generalizing n with
  | zero => rw [pow_zero, Nat.mod_one]; rfl
  | succ width ih =>
      have hhead : (UInt8.ofNat n).toNat = n % 256 := UInt8.toNat_ofNat'
      have htail : leValue (leBytes width (n / 256)) = n / 256 % 256 ^ width := ih (n / 256)
      calc leValue (leBytes (width + 1) n)
          = (UInt8.ofNat n).toNat + 256 * leValue (leBytes width (n / 256)) := by
            rw [leBytes_succ]
            rfl
        _ = n % 256 + 256 * (n / 256 % 256 ^ width) := by rw [hhead, htail]
        _ = n % 256 ^ (width + 1) := by rw [Nat.pow_succ', Nat.mod_mul]

/-- A field behind an integer is found behind its bytes. -/
theorem field_leBytes_append {skipped offset : Nat} (h : skipped ≤ offset)
    (width n : Nat) (rest : List UInt8) :
    field offset width (leBytes skipped n ++ rest) = field (offset - skipped) width rest := by
  unfold field
  rw [List.drop_append, length_leBytes,
    List.drop_eq_nil_of_le (by rw [length_leBytes]; exact h), List.nil_append]

/-- A field at the start is the integer written there. -/
theorem field_zero_leBytes_append (width n : Nat) (rest : List UInt8) :
    field 0 width (leBytes width n ++ rest) = n % 256 ^ width := by
  unfold field
  rw [List.drop_zero, List.take_append_of_le_length (length_leBytes width n).ge,
    List.take_of_length_le (length_leBytes width n).le, leValue_leBytes]

/-! ## Machine integers -/

/-- The `u64` at an offset. -/
def u64At (offset : Nat) (bytes : List UInt8) : UInt64 := UInt64.ofNat (field offset 8 bytes)

/-- The `u32` at an offset. -/
def u32At (offset : Nat) (bytes : List UInt8) : UInt32 := UInt32.ofNat (field offset 4 bytes)

/-- The bytes of a `u64`. -/
def u64Bytes (value : UInt64) : List UInt8 := leBytes 8 value.toNat

/-- The bytes of a `u32`. -/
def u32Bytes (value : UInt32) : List UInt8 := leBytes 4 value.toNat

theorem u64At_zero (value : UInt64) (rest : List UInt8) :
    u64At 0 (u64Bytes value ++ rest) = value := by
  have hlt : value.toNat < 256 ^ 8 := value.toNat_lt
  rw [u64At, u64Bytes, field_zero_leBytes_append, Nat.mod_eq_of_lt hlt, UInt64.ofNat_toNat]

theorem u32At_zero (value : UInt32) (rest : List UInt8) :
    u32At 0 (u32Bytes value ++ rest) = value := by
  have hlt : value.toNat < 256 ^ 4 := value.toNat_lt
  rw [u32At, u32Bytes, field_zero_leBytes_append, Nat.mod_eq_of_lt hlt, UInt32.ofNat_toNat]

theorem u64At_skip {offset : Nat} (h : 8 ≤ offset) (value : UInt64) (rest : List UInt8) :
    u64At offset (u64Bytes value ++ rest) = u64At (offset - 8) rest := by
  rw [u64At, u64Bytes, field_leBytes_append h, u64At]

theorem u32At_skip {offset : Nat} (h : 8 ≤ offset) (value : UInt64) (rest : List UInt8) :
    u32At offset (u64Bytes value ++ rest) = u32At (offset - 8) rest := by
  rw [u32At, u64Bytes, field_leBytes_append h, u32At]

end DaemonChoir.Foundation
