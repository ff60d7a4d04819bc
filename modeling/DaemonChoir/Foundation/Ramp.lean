import Mathlib.Algebra.Order.Field.Basic
import Mathlib.Algebra.Order.Floor.Ring
import Mathlib.Order.Interval.Set.Defs
import Mathlib.Tactic.Linarith
set_option autoImplicit false

/-!
# Foundation: ramps on the unit interval

A ramp goes from one value to another without turning back, whichever of the two is
larger.  A position in an interval followed by a ramp is a monotone map of the whole
line between the two values.  Drawn on a scale, a position is rounded to a mark of it.
-/

namespace DaemonChoir.Foundation

variable {K : Type} [Field K] [LinearOrder K] [IsStrictOrderedRing K]

/-! ## Position in an interval -/

/-- Where `x` stands between `low` and `high`, from 0 to 1, once moved into the
interval. -/
def position (low high x : K) : K := (max low (min high x) - low) / (high - low)

variable {low high : K}

omit [IsStrictOrderedRing K] in
theorem position_of_le (h : low < high) {x : K} (hx : x ≤ low) : position low high x = 0 := by
  rw [position, min_eq_right (hx.trans h.le), max_eq_left hx, sub_self, zero_div]

theorem position_of_ge (h : low < high) {x : K} (hx : high ≤ x) :
    position low high x = 1 := by
  rw [position, min_eq_left hx, max_eq_right h.le, div_self (sub_pos.mpr h).ne']

theorem position_mono (h : low < high) : Monotone (position low high) := by
  intro x y hxy
  have hmoved : max low (min high x) ≤ max low (min high y) :=
    max_le_max le_rfl (min_le_min le_rfl hxy)
  exact div_le_div_of_nonneg_right (sub_le_sub_right hmoved low) (sub_pos.mpr h).le

theorem position_mem (h : low < high) (x : K) : position low high x ∈ Set.Icc (0 : K) 1 := by
  constructor
  · rw [← position_of_le h (min_le_right x low)]
    exact position_mono h (min_le_left x low)
  · rw [← position_of_ge h (le_max_right x high)]
    exact position_mono h (le_max_left x high)

/-- Two different values at or above the lower end have the same position only beyond the
upper end. -/
theorem position_eq_iff (h : low < high) {x y : K} (hx : low ≤ x) (hxy : x < y) :
    position low high x = position low high y ↔ high ≤ x := by
  constructor
  · intro hequal
    by_contra hnot
    have hinside : x < high := not_le.mp hnot
    have hmoved : x < max low (min high y) := lt_max_of_lt_right (lt_min hinside hxy)
    have hless : position low high x < position low high y := by
      rw [position, position, min_eq_right hinside.le, max_eq_right hx]
      exact div_lt_div_of_pos_right (sub_lt_sub_right hmoved low) (sub_pos.mpr h)
    exact hless.ne hequal
  · intro hbeyond
    rw [position_of_ge h hbeyond, position_of_ge h (hbeyond.trans hxy.le)]

/-! ## Marks of a scale -/

section Marks

variable [FloorRing K]

/-- The nearest integer, and the one further from zero when there are two. -/
def roundAway (x : K) : ℤ := if x < 0 then -⌊-x + 1 / 2⌋ else ⌊x + 1 / 2⌋

/-- On a scale from 0 to `marks` a position in the unit interval gets one of the marks. -/
theorem roundAway_mul_bounds {x : K} (h : x ∈ Set.Icc (0 : K) 1) (marks : ℕ) :
    0 ≤ roundAway (x * marks) ∧ roundAway (x * marks) ≤ marks := by
  have hlow : 0 ≤ x * marks := mul_nonneg h.1 (Nat.cast_nonneg marks)
  have hhigh : x * marks ≤ marks := mul_le_of_le_one_left (Nat.cast_nonneg marks) h.2
  rw [roundAway, if_neg (not_lt.mpr hlow)]
  constructor
  · exact Int.floor_nonneg.mpr (by linarith)
  · apply Int.lt_add_one_iff.mp
    rw [Int.floor_lt]
    push_cast
    linarith

end Marks

/-! ## Ramps -/

/-- `curve` goes from `start` at 0 to `finish` at 1, monotonically in that direction. -/
structure Ramp (start finish : K) (curve : K → K) : Prop where
  zero : curve 0 = start
  one : curve 1 = finish
  mono : start ≤ finish → MonotoneOn curve (Set.Icc 0 1)
  anti : finish ≤ start → AntitoneOn curve (Set.Icc 0 1)

namespace Ramp

variable {start finish : K} {curve : K → K}

/-- A curve that rises from 0 to 1, as a ramp. -/
theorem of_mono (hzero : curve 0 = 0) (hone : curve 1 = 1)
    (hmono : MonotoneOn curve (Set.Icc 0 1)) : Ramp 0 1 curve where
  zero := hzero
  one := hone
  mono := fun _ => hmono
  anti := fun h => absurd h (not_le.mpr one_pos)

/-- A ramp from 0 to 1, stretched between two values. -/
theorem stretch (h : Ramp 0 1 curve) (start finish : K) :
    Ramp start finish fun t => start + (finish - start) * curve t where
  zero := by rw [h.zero, mul_zero, add_zero]
  one := by rw [h.one, mul_one, add_sub_cancel]
  mono := by
    intro hle s hs t ht hst
    have hcurve : curve s ≤ curve t := h.mono zero_le_one hs ht hst
    have hscaled : (finish - start) * curve s ≤ (finish - start) * curve t :=
      mul_le_mul_of_nonneg_left hcurve (sub_nonneg.mpr hle)
    exact add_le_add_right hscaled start
  anti := by
    intro hle s hs t ht hst
    have hcurve : curve s ≤ curve t := h.mono zero_le_one hs ht hst
    have hscaled : (finish - start) * curve t ≤ (finish - start) * curve s :=
      mul_le_mul_of_nonpos_left hcurve (sub_nonpos.mpr hle)
    exact add_le_add_right hscaled start

/-- A ramp stays between its two values. -/
theorem between (h : Ramp start finish curve) {t : K} (ht : t ∈ Set.Icc (0 : K) 1) :
    min start finish ≤ curve t ∧ curve t ≤ max start finish := by
  have hzero : (0 : K) ∈ Set.Icc (0 : K) 1 := ⟨le_rfl, zero_le_one⟩
  have hone : (1 : K) ∈ Set.Icc (0 : K) 1 := ⟨zero_le_one, le_rfl⟩
  rcases le_total start finish with hle | hle
  · have hlow : curve 0 ≤ curve t := h.mono hle hzero ht ht.1
    have hhigh : curve t ≤ curve 1 := h.mono hle ht hone ht.2
    rw [min_eq_left hle, max_eq_right hle, ← h.zero, ← h.one]
    exact ⟨hlow, hhigh⟩
  · have hhigh : curve t ≤ curve 0 := h.anti hle hzero ht ht.1
    have hlow : curve 1 ≤ curve t := h.anti hle ht hone ht.2
    rw [min_eq_right hle, max_eq_left hle, ← h.zero, ← h.one]
    exact ⟨hlow, hhigh⟩

end Ramp

end DaemonChoir.Foundation
