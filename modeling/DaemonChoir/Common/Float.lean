import Mathlib.Data.Rat.Floor
import Mathlib.Data.Rat.Cast.Order
import Mathlib.Tactic.Linarith
set_option autoImplicit false

/-!
# Common: the `f64` operations of the daemon

Code that computes with `f64` is written once over a type `F` with the operations
below and is read in two ways.  Over an arbitrary `F` nothing is assumed of the
arithmetic, so what is proved there holds however results are rounded; over an
ordered field the operations are exact.
-/

namespace DaemonChoir.Common

/-- The operations on `f64` that the source uses.  Comparisons are `Bool`-valued
because `>=` is not the negation of `<` on unordered values. -/
class Float64 (F : Type) where
  /-- A literal of the source. -/
  lit : ℚ → F
  /-- `as f64` on an unsigned integer. -/
  ofNat : ℕ → F
  add : F → F → F
  sub : F → F → F
  mul : F → F → F
  div : F → F → F
  /-- `<=` -/
  le : F → F → Bool
  /-- `<` -/
  lt : F → F → Bool
  /-- `f64::floor` -/
  floor : F → F
  /-- `as usize` and `as u64`, before the cut at the top of the integer type. -/
  toNat : F → ℕ
  /-- `as f32`, kept as the `f64` of the same value. -/
  asF32 : F → F
  /-- Rounding a literal is monotone. -/
  le_lit : ∀ {a b : ℚ}, a ≤ b → le (lit a) (lit b) = true

/-- The functions behind `f64` that no ordered field has by itself. -/
class Libm (F : Type) where
  /-- `f64::powf` -/
  powf : F → F → F
  /-- `f64::powi` -/
  powi : F → Int → F
  /-- `f64::ln` -/
  ln : F → F

namespace Float64

variable {F : Type} [Float64 F]

/-- `>=` -/
def ge (a b : F) : Bool := le b a

/-- `>` -/
def gt (a b : F) : Bool := lt b a

/-- `f64::clamp`: panics (`none`) unless `min <= max`. -/
def clamp (x min max : F) : Option F :=
  if le min max then
    some (if lt x min then min else if lt max x then max else x)
  else none

theorem clamp_isSome_iff {x min max : F} :
    (clamp x min max).isSome = true ↔ le min max = true := by
  unfold clamp
  split <;> simp_all

/-! ## Exact arithmetic -/

section Exact

variable {K : Type} [Field K] [LinearOrder K] [IsStrictOrderedRing K] [FloorRing K]

/-- Over an ordered field every operation is exact. -/
instance exact : Float64 K where
  lit q := (q : K)
  ofNat n := (n : K)
  add a b := a + b
  sub a b := a - b
  mul a b := a * b
  div a b := a / b
  le a b := decide (a ≤ b)
  lt a b := decide (a < b)
  floor a := (⌊a⌋ : K)
  toNat a := ⌊a⌋.toNat
  asF32 a := a
  le_lit h := by simpa using (Rat.cast_le (K := K)).mpr h

@[simp] theorem exact_lit (q : ℚ) : (lit q : K) = (q : K) := rfl
@[simp] theorem exact_ofNat (n : ℕ) : (ofNat n : K) = (n : K) := rfl
@[simp] theorem exact_add (a b : K) : add a b = a + b := rfl
@[simp] theorem exact_sub (a b : K) : sub a b = a - b := rfl
@[simp] theorem exact_mul (a b : K) : mul a b = a * b := rfl
@[simp] theorem exact_div (a b : K) : div a b = a / b := rfl
@[simp] theorem exact_le (a b : K) : le a b = decide (a ≤ b) := rfl
@[simp] theorem exact_lt (a b : K) : lt a b = decide (a < b) := rfl
@[simp] theorem exact_ge (a b : K) : ge a b = decide (b ≤ a) := rfl
@[simp] theorem exact_gt (a b : K) : gt a b = decide (b < a) := rfl
@[simp] theorem exact_floor (a : K) : floor a = (⌊a⌋ : K) := rfl
@[simp] theorem exact_toNat (a : K) : toNat a = ⌊a⌋.toNat := rfl

theorem exact_clamp {x min max : K} (h : min ≤ max) :
    clamp x min max = some (Max.max min (Min.min max x)) := by
  simp only [clamp, exact_le, exact_lt, h, decide_true, if_true, decide_eq_true_eq,
    Option.some.injEq]
  by_cases hlow : x < min
  · rw [if_pos hlow, min_eq_right (hlow.le.trans h), max_eq_left hlow.le]
  · rw [if_neg hlow]
    rw [not_lt] at hlow
    by_cases hhigh : max < x
    · rw [if_pos hhigh, min_eq_left hhigh.le, max_eq_right h]
    · rw [if_neg hhigh, min_eq_right (not_lt.mp hhigh), max_eq_right hlow]

end Exact

end Float64

end DaemonChoir.Common
