import Mathlib.Algebra.BigOperators.Ring.Finset
import Mathlib.Algebra.Order.Field.Basic
import Mathlib.Data.List.GetD
import Mathlib.Data.List.Induction
import Mathlib.Tactic.Linarith
import Mathlib.Tactic.Positivity
import Mathlib.Tactic.Ring
set_option autoImplicit false

/-!
# Foundation: sequences observed one element at a time

What a loop can know about the elements it has seen: how many of the last ones
satisfy a predicate without interruption, whether one kind of element occurred since
the last one of another kind, and their exponential moving average.
-/

namespace DaemonChoir.Foundation

universe u

/-! ## Trailing runs -/

section Trailing

variable {α : Type u}

/-- The length of the uninterrupted run of elements satisfying `p` at the end. -/
def trailing (p : α → Bool) (values : List α) : Nat :=
  (values.reverse.takeWhile p).length

@[simp] theorem trailing_nil (p : α → Bool) : trailing p [] = 0 := rfl

theorem trailing_append_singleton (p : α → Bool) (values : List α) (value : α) :
    trailing p (values ++ [value]) = if p value then trailing p values + 1 else 0 := by
  unfold trailing
  rw [List.reverse_append, List.reverse_singleton, List.singleton_append,
    List.takeWhile_cons]
  cases p value <;> simp

/-- A trailing run has at least `n` elements when the last `n` elements exist and all
satisfy the predicate. -/
theorem le_trailing_iff (p : α → Bool) (n : Nat) (values : List α) :
    n ≤ trailing p values ↔
      n ≤ values.length ∧
        ∀ i, values.length - n ≤ i → ∀ value, values[i]? = some value →
          p value = true := by
  induction values using List.reverseRecOn generalizing n with
  | nil => simp
  | append_singleton values last ih =>
      rw [trailing_append_singleton, List.length_append, List.length_singleton]
      cases n with
      | zero =>
          simp only [Nat.zero_le, true_and, true_iff, Nat.sub_zero]
          intro i hi value hvalue
          rw [List.getElem?_eq_none (by simpa using hi)] at hvalue
          cases hvalue
      | succ n =>
          cases hlast : p last with
          | false =>
              simp only [Bool.false_eq_true, if_false, Nat.le_zero_eq,
                Nat.add_one_ne_zero, false_iff, not_and]
              intro _ hall
              have hp := hall values.length (by omega) last (by simp)
              rw [hlast] at hp
              cases hp
          | true =>
              simp only [if_true, Nat.add_le_add_iff_right, ih n]
              apply and_congr_right
              intro _
              rw [Nat.add_sub_add_right]
              constructor
              · intro hall i hi value hvalue
                by_cases hinside : i < values.length
                · rw [List.getElem?_append_left hinside] at hvalue
                  exact hall i hi value hvalue
                · rw [List.getElem?_append_right (by omega)] at hvalue
                  obtain rfl : last = value := by
                    cases hindex : i - values.length with
                    | zero => simpa [hindex] using hvalue
                    | succ index => simp [hindex] at hvalue
                  exact hlast
              · intro hall i hi value hvalue
                have hinside : i < values.length :=
                  (List.getElem?_eq_some_iff.mp hvalue).1
                exact hall i hi value (by rw [List.getElem?_append_left hinside, hvalue])

/-- A constant sequence is one trailing run. -/
theorem trailing_replicate {p : α → Bool} {value : α} (h : p value = true) (n : Nat) :
    trailing p (List.replicate n value) = n := by
  induction n with
  | zero => rfl
  | succ n ih => rw [List.replicate_succ', trailing_append_singleton, if_pos h, ih]

end Trailing

/-! ## Positions -/

/-- The element at a position, counted from 1, with what surrounds it. -/
theorem exists_split {α : Type u} {values : List α} {k : Nat} (hlow : 1 ≤ k)
    (hhigh : k ≤ values.length) :
    ∃ front value back, values = front ++ value :: back ∧ front.length = k - 1 ∧
      values.take k = front ++ [value] := by
  have hindex : k - 1 < values.length := by omega
  have hdrop : values.drop (k - 1) = values[k - 1] :: values.drop k := by
    rw [List.drop_eq_getElem_cons hindex, Nat.sub_add_cancel hlow]
  refine ⟨values.take (k - 1), values[k - 1], values.drop k, ?_, ?_, ?_⟩
  · rw [← hdrop, List.take_append_drop]
  · exact List.length_take_of_le (by omega)
  · rw [List.take_append_getElem hindex, Nat.sub_add_cancel hlow]

/-! ## Since -/

section Since

variable {α : Type u}

/-- Some element satisfies `p`, and none after it satisfies `q`. -/
def Since (p q : α → Prop) (history : List α) : Prop :=
  ∃ front value back, history = front ++ value :: back ∧ p value ∧
    ∀ later ∈ back, ¬ q later

variable {p q : α → Prop}

/-- What one more element makes of it. -/
theorem since_append_singleton_iff {history : List α} {last : α} :
    Since p q (history ++ [last]) ↔ p last ∨ (¬ q last ∧ Since p q history) := by
  constructor
  · intro hsince
    obtain ⟨front, value, back, h, hvalue, hback⟩ := hsince
    induction back using List.reverseRecOn with
    | nil =>
        obtain ⟨_, hlast⟩ := List.append_inj' h rfl
        obtain rfl := List.singleton_inj.mp hlast
        exact .inl hvalue
    | append_singleton back final _ =>
        rw [← List.cons_append, ← List.append_assoc] at h
        obtain ⟨hhistory, hlast⟩ := List.append_inj' h rfl
        obtain rfl := List.singleton_inj.mp hlast
        have hrest : ∀ later ∈ back, ¬ q later :=
          fun later hmem => hback later (List.mem_append_left _ hmem)
        exact .inr ⟨hback last (by simp), front, value, back, hhistory, hvalue, hrest⟩
  · intro hcase
    rcases hcase with hlast | ⟨hnot, front, value, back, rfl, hvalue, hback⟩
    · exact ⟨history, last, [], rfl, hlast, by simp⟩
    · refine ⟨front, value, back ++ [last], by simp, hvalue, fun later hmem => ?_⟩
      rcases List.mem_append.mp hmem with hmem | hmem
      · exact hback later hmem
      · rw [List.mem_singleton.mp hmem]
        exact hnot

/-- A weaker first and a stronger second predicate are easier to satisfy. -/
theorem Since.mono {p' q' : α → Prop} {history : List α} (h : Since p q history)
    (hp : ∀ value, p value → p' value) (hq : ∀ value, q' value → q value) :
    Since p' q' history := by
  obtain ⟨front, value, back, rfl, hvalue, hback⟩ := h
  exact ⟨front, value, back, rfl, hp value hvalue,
    fun later hmem hlater => hback later hmem (hq later hlater)⟩

end Since

/-! ## Exponential moving averages -/

section Average

variable {K : Type} [Field K]

/-- The exponential moving average of a sequence, from a start value. -/
def average (alpha start : K) (values : List K) : K :=
  values.foldl (fun previous value => alpha * value + (1 - alpha) * previous) start

@[simp] theorem average_nil (alpha start : K) : average alpha start [] = start := rfl

theorem average_append_singleton (alpha start : K) (values : List K) (value : K) :
    average alpha start (values ++ [value]) =
      alpha * value + (1 - alpha) * average alpha start values := by
  simp [average]

/-- The same average as one sum: every value counts `1 - alpha` times as much as the one
after it. -/
def weightedSum (alpha : K) (values : List K) : K :=
  ∑ i ∈ Finset.range values.length,
    alpha * (1 - alpha) ^ (values.length - 1 - i) * values.getD i 0

theorem weightedSum_append_singleton (alpha : K) (values : List K) (value : K) :
    weightedSum alpha (values ++ [value]) =
      alpha * value + (1 - alpha) * weightedSum alpha values := by
  have hearlier : ∀ i ∈ Finset.range values.length,
      alpha * (1 - alpha) ^ (values.length - i) * (values ++ [value]).getD i 0 =
        (1 - alpha) * (alpha * (1 - alpha) ^ (values.length - 1 - i) * values.getD i 0) := by
    intro i hi
    have hlt : i < values.length := Finset.mem_range.mp hi
    have hexponent : values.length - i = values.length - 1 - i + 1 := by omega
    rw [List.getD_append _ _ _ _ hlt, hexponent, pow_succ]
    ring
  have hlast : (values ++ [value]).getD values.length 0 = value := by simp
  unfold weightedSum
  rw [List.length_append, List.length_singleton, Nat.add_sub_cancel, Finset.sum_range_succ,
    Finset.sum_congr rfl hearlier, ← Finset.mul_sum, Nat.sub_self, pow_zero, mul_one, hlast,
    add_comm]

/-- The recursion from zero computes the sum. -/
theorem average_eq_weightedSum (alpha : K) (values : List K) :
    average alpha 0 values = weightedSum alpha values := by
  induction values using List.reverseRecOn with
  | nil => simp [weightedSum]
  | append_singleton values last ih =>
      rw [average_append_singleton, weightedSum_append_singleton, ih]

variable [LinearOrder K] [IsStrictOrderedRing K]

/-- Larger values have a larger average. -/
theorem average_le_average {alpha : K} (hlow : 0 ≤ alpha) (hhigh : alpha ≤ 1)
    {first second : List K} (h : List.Forall₂ (· ≤ ·) first second) {start finish : K}
    (hstart : start ≤ finish) : average alpha start first ≤ average alpha finish second := by
  have hrest : 0 ≤ 1 - alpha := sub_nonneg.mpr hhigh
  induction h generalizing start finish with
  | nil => exact hstart
  | cons hhead _ ih =>
      apply ih
      exact add_le_add (mul_le_mul_of_nonneg_left hhead hlow)
        (mul_le_mul_of_nonneg_left hstart hrest)

/-- Strictly larger, as soon as one value or the start is. -/
theorem average_lt_average {alpha : K} (hlow : 0 < alpha) (hhigh : alpha < 1)
    {first second : List K} (h : List.Forall₂ (· ≤ ·) first second) {start finish : K}
    (hstart : start ≤ finish) (hstrict : start < finish ∨ first ≠ second) :
    average alpha start first < average alpha finish second := by
  have hrest : 0 < 1 - alpha := sub_pos.mpr hhigh
  induction h generalizing start finish with
  | nil => exact hstrict.resolve_right fun hnil => hnil rfl
  | @cons value other values others hhead _ ih =>
      have hscaled : alpha * value ≤ alpha * other :=
        mul_le_mul_of_nonneg_left hhead hlow.le
      have hbefore : (1 - alpha) * start ≤ (1 - alpha) * finish :=
        mul_le_mul_of_nonneg_left hstart hrest.le
      apply ih (add_le_add hscaled hbefore)
      -- a difference at the head moves into the next start value
      rcases hstart.eq_or_lt with hequal | hlt
      · rcases hhead.eq_or_lt with hsame | hless
        · right
          intro hvalues
          rcases hstrict with hlt | hlists
          · exact hlt.ne hequal
          · exact hlists (by rw [hsame, hvalues])
        · exact .inl (add_lt_add_of_lt_of_le (mul_lt_mul_of_pos_left hless hlow) hbefore)
      · exact .inl (add_lt_add_of_le_of_lt hscaled (mul_lt_mul_of_pos_left hlt hrest))

/-- The average lies below a bound that every value lies strictly below. -/
theorem average_lt_of_forall_lt {alpha start bound : K} (hlow : 0 < alpha)
    (hhigh : alpha ≤ 1) (hstart : start ≤ bound) {values : List K} (hvalues : values ≠ [])
    (h : ∀ value ∈ values, value < bound) : average alpha start values < bound := by
  have hrest : 0 ≤ 1 - alpha := sub_nonneg.mpr hhigh
  induction values using List.reverseRecOn with
  | nil => exact absurd rfl hvalues
  | append_singleton values last ih =>
      have hlast : alpha * last < alpha * bound :=
        mul_lt_mul_of_pos_left (h last (by simp)) hlow
      have hbefore : average alpha start values ≤ bound := by
        by_cases hnil : values = []
        · rw [hnil]
          exact hstart
        · exact (ih hnil fun value hmem => h value (List.mem_append_left _ hmem)).le
      have hscaled : (1 - alpha) * average alpha start values ≤ (1 - alpha) * bound :=
        mul_le_mul_of_nonneg_left hbefore hrest
      rw [average_append_singleton]
      calc alpha * last + (1 - alpha) * average alpha start values
          < alpha * bound + (1 - alpha) * bound := add_lt_add_of_lt_of_le hlast hscaled
        _ = bound := by ring

theorem average_nonneg {alpha start : K} (hlow : 0 ≤ alpha) (hhigh : alpha ≤ 1)
    (hstart : 0 ≤ start) {values : List K} (hvalues : ∀ value ∈ values, 0 ≤ value) :
    0 ≤ average alpha start values := by
  induction values using List.reverseRecOn with
  | nil => exact hstart
  | append_singleton values last ih =>
      rw [average_append_singleton]
      have hlast : 0 ≤ last := hvalues last (by simp)
      have hbefore : 0 ≤ average alpha start values :=
        ih fun value hmem => hvalues value (List.mem_append_left _ hmem)
      have hrest : 0 ≤ 1 - alpha := by linarith
      positivity

/-- The average of nonnegative values from zero vanishes only when every value does:
nothing is ever forgotten completely. -/
theorem average_eq_zero_iff {alpha : K} (hlow : 0 < alpha) (hhigh : alpha < 1)
    {values : List K} (hvalues : ∀ value ∈ values, 0 ≤ value) :
    average alpha 0 values = 0 ↔ ∀ value ∈ values, value = 0 := by
  induction values using List.reverseRecOn with
  | nil => simp
  | append_singleton values last ih =>
      have hlast : 0 ≤ last := hvalues last (by simp)
      have hearlier : ∀ value ∈ values, 0 ≤ value :=
        fun value hmem => hvalues value (List.mem_append_left _ hmem)
      have hbefore : 0 ≤ average alpha 0 values :=
        average_nonneg hlow.le hhigh.le le_rfl hearlier
      have hrest : 0 < 1 - alpha := by linarith
      rw [average_append_singleton,
        add_eq_zero_iff_of_nonneg (mul_nonneg hlow.le hlast)
          (mul_nonneg hrest.le hbefore),
        mul_eq_zero, mul_eq_zero, or_iff_right hlow.ne', or_iff_right hrest.ne',
        ih hearlier]
      simp only [List.mem_append, List.mem_singleton, or_imp, forall_and, forall_eq]
      exact and_comm

end Average

end DaemonChoir.Foundation
