import Mathlib.Algebra.Order.Floor.Div
set_option autoImplicit false

/-!
# Foundation: counts on a finer grid

A unit is divided into `coarse` parts on one grid and into `fine` parts on another.  A
count of coarse parts, rounded down to fine ones, stays within the unit, keeps its order
and can be read back by rounding up.
-/

namespace DaemonChoir.Foundation

/-- The fine parts that fit into `n` coarse ones. -/
def rescale (coarse fine n : Nat) : Nat := n * fine / coarse

namespace Rescale

variable {coarse fine m n : Nat}

/-- Less than the unit stays less than the unit. -/
theorem rescale_lt (h : n < coarse) (hfine : 0 < fine) : rescale coarse fine n < fine := by
  rw [rescale, Nat.div_lt_iff_lt_mul (by omega), Nat.mul_comm fine coarse]
  exact Nat.mul_lt_mul_of_pos_right h hfine

/-- On a grid that is no coarser, one part more is one part more. -/
theorem rescale_lt_rescale (hcoarse : 0 < coarse) (hle : coarse ≤ fine) (h : m < n) :
    rescale coarse fine m < rescale coarse fine n := by
  rw [rescale, rescale, Nat.lt_iff_add_one_le, ← Nat.add_div_right _ hcoarse]
  apply Nat.div_le_div_right
  calc m * fine + coarse
      ≤ m * fine + fine := Nat.add_le_add_left hle _
    _ = (m + 1) * fine := (Nat.succ_mul m fine).symm
    _ ≤ n * fine := Nat.mul_le_mul_right fine h

theorem rescale_inj (hcoarse : 0 < coarse) (hle : coarse ≤ fine) :
    rescale coarse fine m = rescale coarse fine n ↔ m = n := by
  constructor
  · intro h
    rcases Nat.lt_trichotomy m n with hlt | heq | hgt
    · exact absurd h (Nat.ne_of_lt (rescale_lt_rescale hcoarse hle hlt))
    · exact heq
    · exact absurd h (Nat.ne_of_gt (rescale_lt_rescale hcoarse hle hgt))
  · intro h
    rw [h]

/-- Rounding up brings back what rounding down took. -/
theorem ceilDiv_rescale (hcoarse : 0 < coarse) (hle : coarse ≤ fine) :
    rescale coarse fine n * coarse ⌈/⌉ fine = n := by
  have hfine : 0 < fine := Nat.lt_of_lt_of_le hcoarse hle
  have hlow : n * fine < rescale coarse fine n * coarse + coarse := by
    rw [rescale, Nat.mul_comm _ coarse]
    exact Nat.lt_mul_div_succ _ hcoarse
  have hhigh : rescale coarse fine n * coarse ≤ n * fine := Nat.div_mul_le_self ..
  apply Nat.le_antisymm
  · rw [ceilDiv_le_iff_le_mul hfine, Nat.mul_comm fine n]
    exact hhigh
  · apply Nat.le_of_not_lt
    intro hlt
    have hceil : rescale coarse fine n * coarse ≤
        fine * (rescale coarse fine n * coarse ⌈/⌉ fine) := le_smul_ceilDiv hfine
    have hnext : fine * (rescale coarse fine n * coarse ⌈/⌉ fine) + fine ≤ n * fine := by
      rw [← Nat.mul_succ, Nat.mul_comm n fine]
      exact Nat.mul_le_mul_left fine hlt
    omega

/-- A count in units and fine parts keeps the order of the count in coarse parts. -/
theorem lex_of_lt (hcoarse : 0 < coarse) (hle : coarse ≤ fine) (h : m < n) :
    m / coarse < n / coarse ∨ m / coarse = n / coarse ∧
      rescale coarse fine (m % coarse) < rescale coarse fine (n % coarse) := by
  rcases Nat.lt_or_eq_of_le (Nat.div_le_div_right (c := coarse) (Nat.le_of_lt h)) with
    hunits | hunits
  · exact Or.inl hunits
  · refine Or.inr ⟨hunits, rescale_lt_rescale hcoarse hle ?_⟩
    have hm := Nat.div_add_mod m coarse
    have hn := Nat.div_add_mod n coarse
    rw [hunits] at hm
    omega

end Rescale

end DaemonChoir.Foundation
