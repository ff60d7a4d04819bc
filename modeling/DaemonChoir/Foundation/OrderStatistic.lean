import Mathlib.Data.List.Sort
set_option autoImplicit false

/-!
# Foundation: order statistics of a list

The element that a sort puts at a given position: how many elements lie before it and how
many do not lie after it, and how it moves when the elements grow.  The order is any
total transitive relation with a decision procedure, as a sort needs it.
-/

namespace DaemonChoir.Foundation

universe u

variable {α : Type u} (r : α → α → Prop) [DecidableRel r]

/-! ## Positions of a sorted list -/

section Sorted

variable {r} {sorted : List α} {i : Nat}

/-- What lies strictly before the element at position `i` stands among the first `i`. -/
theorem countP_before_getElem_le [Std.Refl r] (hsorted : sorted.Pairwise r)
    (hi : i < sorted.length) :
    sorted.countP (fun value => ¬ r sorted[i] value) ≤ i := by
  have hrest : (sorted.drop i).countP (fun value => ¬ r sorted[i] value) = 0 := by
    have hdrop := hsorted.drop (i := i)
    rw [List.drop_eq_getElem_cons hi] at hdrop ⊢
    rw [List.countP_eq_zero]
    intro value hmem
    rw [decide_eq_true_eq, not_not]
    rcases List.mem_cons.mp hmem with heq | hlater
    · rw [heq]
      exact Std.Refl.refl _
    · exact List.rel_of_pairwise_cons hdrop hlater
  calc sorted.countP (fun value => ¬ r sorted[i] value)
      = (sorted.take i ++ sorted.drop i).countP (fun value => ¬ r sorted[i] value) := by
        rw [List.take_append_drop]
    _ = (sorted.take i).countP (fun value => ¬ r sorted[i] value) := by
        rw [List.countP_append, hrest, Nat.add_zero]
    _ ≤ (sorted.take i).length := List.countP_le_length
    _ ≤ i := List.length_take_le i sorted

/-- The first `i + 1` elements do not lie after the one at position `i`. -/
theorem lt_countP_upTo_getElem [Std.Refl r] (hsorted : sorted.Pairwise r)
    (hi : i < sorted.length) :
    i < sorted.countP (fun value => r value sorted[i]) := by
  have hfront : (sorted.take (i + 1)).countP (fun value => r value sorted[i]) =
      (sorted.take (i + 1)).length := by
    rw [List.countP_eq_length]
    intro value hmem
    rw [decide_eq_true_eq]
    rw [← List.take_append_getElem hi] at hmem
    rcases List.mem_append.mp hmem with hearlier | hlast
    · have hsplit : sorted.take i ++ sorted.drop i = sorted := List.take_append_drop i sorted
      rw [← hsplit] at hsorted
      exact (List.pairwise_append.mp hsorted).2.2 value hearlier sorted[i]
        (by rw [List.drop_eq_getElem_cons hi]; exact List.mem_cons_self)
    · rw [List.mem_singleton.mp hlast]
      exact Std.Refl.refl _
  calc i < (sorted.take (i + 1)).length := by rw [List.length_take_of_le hi]; omega
    _ = (sorted.take (i + 1)).countP (fun value => r value sorted[i]) := hfront.symm
    _ ≤ sorted.countP (fun value => r value sorted[i]) :=
        (List.take_sublist (i + 1) sorted).countP_le

end Sorted

/-! ## The element of a rank -/

/-- The element at position `i` after sorting. -/
def orderStatistic (values : List α) (i : Nat) (hi : i < values.length) : α :=
  (values.insertionSort r).get ⟨i, by rw [List.length_insertionSort]; exact hi⟩

variable {r}

theorem orderStatistic_mem {values : List α} {i : Nat} (hi : i < values.length) :
    orderStatistic r values i hi ∈ values :=
  (List.mem_insertionSort r).mp (List.get_mem _ _)

variable [Std.Total r] [IsTrans α r]

/-- At most `i` elements lie strictly before it. -/
theorem countP_before_orderStatistic_le {values : List α} {i : Nat}
    (hi : i < values.length) :
    values.countP (fun value => ¬ r (orderStatistic r values i hi) value) ≤ i := by
  rw [← (List.perm_insertionSort r values).countP_eq]
  exact countP_before_getElem_le (List.pairwise_insertionSort r values) _

/-- At least `i + 1` elements do not lie after it. -/
theorem lt_countP_upTo_orderStatistic {values : List α} {i : Nat}
    (hi : i < values.length) :
    i < values.countP (fun value => r value (orderStatistic r values i hi)) := by
  rw [← (List.perm_insertionSort r values).countP_eq]
  exact lt_countP_upTo_getElem (List.pairwise_insertionSort r values) _

/-- An element with more than `i` elements up to it does not lie before the one of
rank `i`. -/
theorem orderStatistic_rel {values : List α} {i : Nat} (hi : i < values.length)
    {bound : α} (h : i < values.countP (fun value => r value bound)) :
    r (orderStatistic r values i hi) bound := by
  by_contra hnot
  -- all that lies up to the bound would lie strictly before the statistic
  have hle : values.countP (fun value => r value bound) ≤
      values.countP (fun value => ¬ r (orderStatistic r values i hi) value) := by
    apply List.countP_mono_left
    intro value _ hvalue
    rw [decide_eq_true_eq] at hvalue ⊢
    intro hstatistic
    exact hnot (IsTrans.trans _ _ _ hstatistic hvalue)
  have hrank := countP_before_orderStatistic_le (r := r) hi
  omega

/-- Growing every element never lowers an order statistic. -/
theorem orderStatistic_forall₂ {first second : List α} (h : List.Forall₂ r first second)
    {i : Nat} (hfirst : i < first.length) (hsecond : i < second.length) :
    r (orderStatistic r first i hfirst) (orderStatistic r second i hsecond) := by
  apply orderStatistic_rel
  have hcount : ∀ bound, second.countP (fun value => r value bound) ≤
      first.countP (fun value => r value bound) := by
    intro bound
    clear hfirst hsecond
    induction h with
    | nil => exact Nat.le_refl 0
    | cons hhead _ ih =>
        rw [List.countP_cons, List.countP_cons]
        split
        · rename_i hsmall
          rw [decide_eq_true_eq] at hsmall
          rw [if_pos (decide_eq_true (IsTrans.trans _ _ _ hhead hsmall))]
          omega
        · omega
  exact (lt_countP_upTo_orderStatistic hsecond).trans_le (hcount _)

/-- Two arrangements of the same elements are sorted into one list. -/
theorem insertionSort_perm [Std.Antisymm r] {first second : List α}
    (h : first.Perm second) : first.insertionSort r = second.insertionSort r := by
  have hperm : (first.insertionSort r).Perm (second.insertionSort r) :=
    (List.perm_insertionSort r first).trans (h.trans (List.perm_insertionSort r second).symm)
  exact hperm.eq_of_pairwise' (List.pairwise_insertionSort r first)
    (List.pairwise_insertionSort r second)

/-! ## Quantiles -/

omit [Std.Total r] [IsTrans α r] in
/-- A proper fraction of a positive length is a position. -/
theorem quantile_index_lt {p q n : Nat} (hpq : p < q) (hn : 0 < n) : p * n / q < n := by
  apply Nat.div_lt_of_lt_mul
  exact Nat.mul_lt_mul_of_pos_right hpq hn

variable (r) in
/-- `v` is an element that at most `p / q` of the list lies strictly before, while at
least `p / q` of the list does not lie after it. -/
structure IsQuantile (p q : Nat) (values : List α) (v : α) : Prop where
  mem : v ∈ values
  before : q * values.countP (fun value => ¬ r v value) ≤ p * values.length
  upTo : p * values.length ≤ q * values.countP (fun value => r value v)

/-- The order statistic of rank `⌊p n / q⌋` is a `p / q` quantile. -/
theorem orderStatistic_isQuantile {p q : Nat} {values : List α} (hpq : p < q)
    (hn : 0 < values.length) :
    IsQuantile r p q values
      (orderStatistic r values (p * values.length / q) (quantile_index_lt hpq hn)) where
  mem := orderStatistic_mem _
  before := by
    have hrank := countP_before_orderStatistic_le (r := r) (quantile_index_lt hpq hn)
    exact (Nat.mul_le_mul_left q hrank).trans (Nat.mul_div_le (p * values.length) q)
  upTo := by
    have hrank := lt_countP_upTo_orderStatistic (r := r) (quantile_index_lt hpq hn)
    have hq : 0 < q := by omega
    exact (Nat.lt_mul_div_succ (p * values.length) hq).le.trans (Nat.mul_le_mul_left q hrank)

end DaemonChoir.Foundation
