import DaemonChoir.Conductor.Mapping
import DaemonChoir.Foundation.Ramp
import Mathlib.Analysis.SpecialFunctions.Pow.Real
import Mathlib.Order.CompletePartialOrder
set_option autoImplicit false

/-!
# Conductor: the shape of a transform

In exact arithmetic `apply_transform` is the position in the input range followed by a
ramp over the output range.  The step transform is the one ramp that is not continuous,
and it takes six values, not five.

The position is `(x - in_min) / (in_max - in_min)`, clamped.  Each of the shapes is a ramp
on the unit interval (`Foundation.Ramp`): it starts at 0, ends at 1 and does not turn back,
and the output range stretches it, in either direction.  Exponential and logarithmic shapes
need the real `powf` and `ln`, so the results of this module are about real numbers; names
that are no transform are linear, as in the source.
-/

namespace DaemonChoir.Conductor

open DaemonChoir.Common DaemonChoir.Foundation Float64

/-! ## Real arithmetic -/

/-- `powf`, `powi` and `ln` on the reals. -/
noncomputable instance realLibm : Libm ℝ where
  powf base exponent := base ^ exponent
  powi base exponent := base ^ exponent
  ln x := Real.log x

@[simp] theorem realLibm_powf (base exponent : ℝ) :
    Libm.powf base exponent = base ^ exponent := rfl

@[simp] theorem realLibm_powi (base : ℝ) (exponent : ℤ) :
    Libm.powi base exponent = base ^ exponent := rfl

@[simp] theorem realLibm_ln (x : ℝ) : Libm.ln x = Real.log x := rfl

section Exact

variable {K : Type} [Field K] [LinearOrder K] [IsStrictOrderedRing K] [FloorRing K]
  [Libm K]

theorem applyTransform_exact (x : K) (transform : String) {inMin inMax : K}
    (outMin outMax : K) (h : inMin < inMax) :
    applyTransform x transform inMin inMax outMin outMax =
      some (shape transform (position inMin inMax x) outMin outMax) := by
  simp [applyTransform, not_le.mpr h, exact_clamp h.le, position]

theorem applyTransform_degenerate (x : K) (transform : String) {inMin inMax : K}
    (outMin outMax : K) (h : inMax ≤ inMin) :
    applyTransform x transform inMin inMax outMin outMax = some outMin := by
  simp [applyTransform, h]

end Exact

/-! ## The ramps -/

theorem ramp_geometric {start finish : ℝ} (hstart : 0 < start) (hfinish : 0 < finish) :
    Ramp start finish fun t => start * (finish / start) ^ t where
  zero := by rw [Real.rpow_zero, mul_one]
  one := by rw [Real.rpow_one, mul_div_cancel₀ finish hstart.ne']
  mono := by
    intro hle s _ t _ hst
    have hbase : 1 ≤ finish / start := (one_le_div hstart).mpr hle
    have hpower : (finish / start) ^ s ≤ (finish / start) ^ t :=
      Real.rpow_le_rpow_of_exponent_le hbase hst
    exact mul_le_mul_of_nonneg_left hpower hstart.le
  anti := by
    intro hle s _ t _ hst
    have hbase : finish / start ≤ 1 := (div_le_one hstart).mpr hle
    have hpower : (finish / start) ^ t ≤ (finish / start) ^ s :=
      Real.rpow_le_rpow_of_exponent_ge (div_pos hfinish hstart) hbase hst
    exact mul_le_mul_of_nonneg_left hpower hstart.le

theorem ramp_quadratic : Ramp (0 : ℝ) 1 fun t => t ^ (2 : ℤ) := by
  apply Ramp.of_mono (zero_zpow 2 (by decide)) (one_zpow 2)
  intro s hs t _ hst
  have hsquare : s ^ 2 ≤ t ^ 2 := pow_le_pow_left₀ hs.1 hst 2
  exact_mod_cast hsquare

theorem ramp_logarithmic :
    Ramp (0 : ℝ) 1 fun t => Real.log (1 + t * 9) / Real.log 10 := by
  have hten : 0 < Real.log 10 := Real.log_pos (by norm_num)
  apply Ramp.of_mono
  · simp
  · rw [one_mul, show (1 + 9 : ℝ) = 10 by norm_num, div_self hten.ne']
  · intro s hs t _ hst
    have hpos : 0 < 1 + s * 9 := by linarith [hs.1]
    have hlog : Real.log (1 + s * 9) ≤ Real.log (1 + t * 9) :=
      Real.log_le_log hpos (by linarith)
    exact div_le_div_of_nonneg_right hlog hten.le

theorem ramp_step : Ramp (0 : ℝ) 1 fun t => (⌊t * 5⌋ : ℝ) / 5 := by
  apply Ramp.of_mono
  · simp
  · rw [one_mul, show (5 : ℝ) = ((5 : ℤ) : ℝ) by norm_num, Int.floor_intCast]
    norm_num
  · intro s _ t _ hst
    have hfloor : ⌊s * 5⌋ ≤ ⌊t * 5⌋ := Int.floor_mono (by linarith)
    have hcast : (⌊s * 5⌋ : ℝ) ≤ ⌊t * 5⌋ := Int.cast_le.mpr hfloor
    linarith

theorem ramp_linear : Ramp (0 : ℝ) 1 fun t => t :=
  Ramp.of_mono rfl rfl fun _ _ _ _ hst => hst

/-- Every branch of the `match` is a ramp over the output range. -/
theorem shape_ramp (transform : String) (outMin outMax : ℝ) :
    Ramp outMin outMax fun ratio => shape transform ratio outMin outMax := by
  unfold shape
  split
  · by_cases hpos : 0 < outMin ∧ 0 < outMax
    · simp only [exact_gt, exact_lit, Rat.cast_zero, hpos, decide_true, Bool.and_self,
        if_true, exact_mul, exact_div, realLibm_powf]
      exact ramp_geometric hpos.1 hpos.2
    · have hguard : (gt outMin (lit 0) && gt outMax (lit 0)) = false := by
        simpa using hpos
      simp only [hguard, Bool.false_eq_true, if_false, exact_add, exact_mul, exact_sub,
        realLibm_powi]
      exact ramp_quadratic.stretch outMin outMax
  · simp only [exact_add, exact_mul, exact_sub, exact_div, exact_lit, realLibm_ln,
      Rat.cast_one, Rat.cast_ofNat]
    exact ramp_logarithmic.stretch outMin outMax
  · simp only [exact_add, exact_mul, exact_sub, exact_div, exact_lit, exact_floor,
      Rat.cast_ofNat]
    exact ramp_step.stretch outMin outMax
  · exact ramp_linear.stretch outMin outMax

/-- `apply_transform` is a monotone map onto the output range: bounded by it, exact at
both ends, and monotone in the direction of the range. -/
theorem applyTransform_monotone (transform : String) {inMin inMax : ℝ}
    (outMin outMax : ℝ) (hin : inMin < inMax) {x y : ℝ} (hxy : x ≤ y) :
    ∃ atX atY, applyTransform x transform inMin inMax outMin outMax = some atX ∧
      applyTransform y transform inMin inMax outMin outMax = some atY ∧
      (min outMin outMax ≤ atX ∧ atX ≤ max outMin outMax) ∧
      (x ≤ inMin → atX = outMin) ∧ (inMax ≤ x → atX = outMax) ∧
      (outMin ≤ outMax → atX ≤ atY) ∧ (outMax ≤ outMin → atY ≤ atX) := by
  have hramp := shape_ramp transform outMin outMax
  have hx := position_mem hin x
  have hy := position_mem hin y
  have hposition : position inMin inMax x ≤ position inMin inMax y :=
    position_mono hin hxy
  refine ⟨_, _, applyTransform_exact x transform outMin outMax hin,
    applyTransform_exact y transform outMin outMax hin, hramp.between hx, ?_, ?_, ?_, ?_⟩
  · intro hlow
    rw [position_of_le hin hlow]
    exact hramp.zero
  · intro hhigh
    rw [position_of_ge hin hhigh]
    exact hramp.one
  · intro hle
    exact hramp.mono hle hx hy hposition
  · intro hle
    exact hramp.anti hle hx hy hposition

/-- An inverted exponential range. -/
theorem applyTransform_monotone_inverted :
    ∃ atX atY, applyTransform (1 / 4 : ℝ) "Exponential" 0 1 200 100 = some atX ∧
      applyTransform (1 / 2 : ℝ) "Exponential" 0 1 200 100 = some atY ∧ atY ≤ atX := by
  obtain ⟨atX, atY, hX, hY, _, _, _, _, hanti⟩ :=
    applyTransform_monotone "Exponential" 200 100 (by norm_num : (0 : ℝ) < 1)
      (by norm_num : (1 / 4 : ℝ) ≤ 1 / 2)
  exact ⟨atX, atY, hX, hY, hanti (by norm_num)⟩

/-! ## The levels of the step transform -/

section Step

variable {K : Type} [Field K] [LinearOrder K] [IsStrictOrderedRing K] [FloorRing K]
  [Libm K]

/-- All values of the step transform. -/
def stepLevels (inMin inMax outMin outMax : K) : Set K :=
  {value | ∃ x, applyTransform x "step" inMin inMax outMin outMax = some value}

/-- The points that cut the input range into five equal parts. -/
def stepCut (inMin inMax : K) (i : ℕ) : K := inMin + (inMax - inMin) * ((i : K) / 5)

/-- Five output values with both ends among them, and five parts of the input range, of
equal width, on each of which the output is constant. -/
structure FiveLevels (inMin inMax outMin outMax : K) : Prop where
  card : (stepLevels inMin inMax outMin outMax).ncard = 5
  start : outMin ∈ stepLevels inMin inMax outMin outMax
  finish : outMax ∈ stepLevels inMin inMax outMin outMax
  constant : ∃ part : Fin 5 → Set K,
    (∀ x, x ∈ Set.Icc inMin inMax ↔ ∃ i, x ∈ part i) ∧
      (∀ i j, i ≠ j → Disjoint (part i) (part j)) ∧
      (∀ i : Fin 5,
        Set.Ioo (stepCut inMin inMax i) (stepCut inMin inMax (i + 1)) ⊆ part i ∧
          part i ⊆ Set.Icc (stepCut inMin inMax i) (stepCut inMin inMax (i + 1))) ∧
      ∀ i, ∀ x ∈ part i, ∀ y ∈ part i,
        applyTransform x "step" inMin inMax outMin outMax =
          applyTransform y "step" inMin inMax outMin outMax

/-- The value of the `k`-th level. -/
def stepLevel (outMin outMax : K) (k : ℕ) : K := outMin + (outMax - outMin) * ((k : K) / 5)

theorem shape_step (ratio outMin outMax : K) :
    shape "step" ratio outMin outMax =
      outMin + (outMax - outMin) * ((⌊ratio * 5⌋ : K) / 5) := by
  have hlower : "step".toLower = "step" := by
    apply String.toList_injective
    have hmap : "step".toLower.toList = "step".toList.map Char.toLower := String.toList_map ..
    rw [hmap]
    simp
  simp only [shape, hlower, exact_add, exact_mul, exact_sub, exact_div, exact_lit,
    exact_floor, Rat.cast_ofNat]

omit [Libm K] in
/-- A position is cut down to the level below it; the last level is the end itself. -/
theorem exists_level {t : K} (ht : t ∈ Set.Icc (0 : K) 1) :
    ∃ k ≤ 5, ⌊t * 5⌋ = ((k : ℕ) : ℤ) := by
  have hlow : 0 ≤ ⌊t * 5⌋ := Int.floor_nonneg.mpr (by linarith [ht.1])
  have hhigh : ⌊t * 5⌋ ≤ 5 := by
    have hle : ⌊t * 5⌋ ≤ ⌊((5 : ℤ) : K)⌋ := by
      apply Int.floor_mono
      push_cast
      linarith [ht.2]
    rwa [Int.floor_intCast] at hle
  obtain ⟨k, hk⟩ := Int.eq_ofNat_of_zero_le hlow
  exact ⟨k, by omega, hk⟩

omit [Libm K] in
theorem position_stepCut {inMin inMax : K} (h : inMin < inMax) {k : ℕ} (hk : k ≤ 5) :
    position inMin inMax (stepCut inMin inMax k) = (k : K) / 5 := by
  have hwidth : 0 < inMax - inMin := sub_pos.mpr h
  have hfraction : (k : K) / 5 ≤ 1 := by
    rw [div_le_one (by norm_num)]
    exact_mod_cast hk
  have hlow : inMin ≤ stepCut inMin inMax k := by
    have hnonneg : 0 ≤ (inMax - inMin) * ((k : K) / 5) := by positivity
    rw [stepCut]
    linarith
  have hhigh : stepCut inMin inMax k ≤ inMax := by
    have hle : (inMax - inMin) * ((k : K) / 5) ≤ inMax - inMin :=
      mul_le_of_le_one_right hwidth.le hfraction
    rw [stepCut]
    linarith
  rw [position, min_eq_right hhigh, max_eq_right hlow, stepCut, add_sub_cancel_left,
    mul_div_cancel_left₀ _ hwidth.ne']

/-- The values of the step transform are the levels from 0 to 5. -/
theorem stepLevels_eq {inMin inMax : K} (outMin outMax : K) (h : inMin < inMax) :
    stepLevels inMin inMax outMin outMax =
      stepLevel outMin outMax '' (Finset.range 6 : Set ℕ) := by
  ext value
  constructor
  · intro hvalue
    obtain ⟨x, hx⟩ := hvalue
    obtain ⟨k, hk, hfloor⟩ := exists_level (position_mem h x)
    rw [applyTransform_exact x "step" outMin outMax h, shape_step, hfloor] at hx
    refine ⟨k, by simpa using Nat.lt_succ_of_le hk, ?_⟩
    rw [stepLevel, ← Option.some_inj, ← hx, Int.cast_natCast]
  · intro hvalue
    obtain ⟨k, hk, rfl⟩ := hvalue
    have hle : k ≤ 5 := by
      have hlt : k < 6 := by simpa using hk
      omega
    refine ⟨stepCut inMin inMax k, ?_⟩
    rw [applyTransform_exact _ "step" outMin outMax h, position_stepCut h hle, shape_step,
      div_mul_cancel₀ (k : K) (by norm_num), Int.floor_natCast, Int.cast_natCast, stepLevel]

theorem stepLevels_ncard {inMin inMax outMin outMax : K} (hin : inMin < inMax)
    (hout : outMin ≠ outMax) : (stepLevels inMin inMax outMin outMax).ncard = 6 := by
  have hinjective : Function.Injective (stepLevel outMin outMax) := by
    intro k l hlevel
    have hwidth : outMax - outMin ≠ 0 := sub_ne_zero.mpr hout.symm
    have hfraction : (k : K) / 5 = (l : K) / 5 :=
      mul_left_cancel₀ hwidth (add_left_cancel hlevel)
    exact_mod_cast (div_left_inj' (by norm_num)).mp hfraction
  rw [stepLevels_eq outMin outMax hin, Set.ncard_image_of_injective _ hinjective,
    Set.ncard_coe_finset, Finset.card_range]

/-- The step transform never has five levels. -/
theorem not_fiveLevels {inMin inMax outMin outMax : K} (hin : inMin < inMax)
    (hout : outMin ≠ outMax) : ¬ FiveLevels inMin inMax outMin outMax := by
  intro hfive
  have hsix := stepLevels_ncard hin hout
  rw [hfive.card] at hsix
  cases hsix

end Step

/-- A percentage. -/
theorem not_fiveLevels_percent : ¬ FiveLevels (0 : ℝ) 1 0 100 :=
  not_fiveLevels (by norm_num) (by norm_num)

/-- The range of the unit interval onto percentages has six levels. -/
theorem fiveLevels_fails :
    ¬ ∀ inMin inMax outMin outMax : ℝ, inMin < inMax → outMin ≠ outMax →
        FiveLevels inMin inMax outMin outMax := by
  intro hclaim
  have hfive := (hclaim 0 1 0 100 (by norm_num) (by norm_num)).card
  have hsix : (stepLevels (0 : ℝ) 1 0 100).ncard = 6 :=
    stepLevels_ncard (by norm_num) (by norm_num)
  rw [hfive] at hsix
  cases hsix

end DaemonChoir.Conductor
