import DaemonChoir.Foundation.Run
import Mathlib.Algebra.BigOperators.Ring.Finset
import Mathlib.Algebra.Order.BigOperators.Group.Finset
set_option autoImplicit false

/-!
# Foundation: bookkeeping over runs

What a component holds changes in a step by what enters and what leaves it.  Over a
run the same balance holds between the sums over the visits.
-/

namespace DaemonChoir.Foundation

universe u v w

open Finset

/-! ## Sums over the visits of a run -/

section Total

variable {α : Type u} {M : Type v} [AddCommMonoid M]

/-- The sum of a quantity over a trace. -/
def total (measure : α → M) (trace : List α) : M := (trace.map measure).sum

@[simp] theorem total_nil (measure : α → M) : total measure [] = 0 := rfl

theorem total_append_singleton (measure : α → M) (trace : List α) (visit : α) :
    total measure (trace ++ [visit]) = total measure trace + measure visit := by
  simp [total]

/-- Sums over a trace and over finitely many components can be exchanged. -/
theorem total_sum {ι : Type w} [Fintype ι] (measure : ι → α → M) (trace : List α) :
    total (fun visit => ∑ i, measure i visit) trace = ∑ i, total (measure i) trace := by
  induction trace using List.reverseRecOn with
  | nil => simp
  | append_singleton trace visit ih =>
      simp only [total_append_singleton, ih, Finset.sum_add_distrib]

/-- A sum of natural numbers vanishes when every one does. -/
theorem total_eq_zero_iff {measure : α → ℕ} {trace : List α} :
    total measure trace = 0 ↔ ∀ visit ∈ trace, measure visit = 0 := by
  rw [total, List.sum_eq_zero_iff, List.forall_mem_map]

end Total

/-! ## Balance -/

section Balance

variable {σ : Type u} {α : Type v} {M : Type w} [AddCommMonoid M]
  {step : σ → α → Option σ}

/-- The balance of every step is the balance of a run.  The steps may be restricted by a
property `ok` of the state they lead to, if no step can establish it. -/
theorem Run.balance {s final : σ} {trace : List (σ × α)} (run : Run step s trace final)
    (held : σ → M) (gain loss : σ × α → M) (ok : σ → Prop)
    (back : ∀ {t next : σ} {label : α}, step t label = some next → ok next → ok t)
    (keep : ∀ {t next : σ} {label : α}, step t label = some next → ok next →
      held next + loss (t, label) = held t + gain (t, label))
    (hok : ok final) : held final + total loss trace = held s + total gain trace := by
  induction run with
  | nil => simp
  | @snoc trace t next label _ taken ih =>
      have hbefore := ih (back taken hok)
      rw [total_append_singleton, total_append_singleton]
      calc held next + (total loss trace + loss (t, label))
          = (held next + loss (t, label)) + total loss trace := by
            rw [add_comm (total loss trace), add_assoc]
        _ = (held t + gain (t, label)) + total loss trace := by rw [keep taken hok]
        _ = (held t + total loss trace) + gain (t, label) := by
            rw [add_assoc, add_comm (gain (t, label)), ← add_assoc]
        _ = held s + (total gain trace + gain (t, label)) := by rw [hbefore, add_assoc]

/-- What every step pays out of a budget is bounded by the budget.  The steps may be those
that keep an invariant. -/
theorem Run.spends {s final : σ} {trace : List (σ × α)} (run : Run step s trace final)
    (inv : σ → Prop) (budget : σ → ℕ) (cost : σ × α → ℕ) (start : inv s)
    (keep : ∀ {t next : σ} {label : α}, inv t → step t label = some next → inv next)
    (pay : ∀ {t next : σ} {label : α}, inv t → step t label = some next →
      budget next + cost (t, label) ≤ budget t) :
    budget final + total cost trace ≤ budget s := by
  have hboth : inv final ∧ budget final + total cost trace ≤ budget s := by
    induction run with
    | nil => exact ⟨start, by simp⟩
    | @snoc trace t next label _ taken ih =>
        obtain ⟨hinv, hspent⟩ := ih
        have hpaid := pay hinv taken
        refine ⟨keep hinv taken, ?_⟩
        rw [total_append_singleton]
        omega
  exact hboth.2

end Balance

/-! ## One component among many -/

section Components

variable {ι : Type u} {β : Type v} {M : Type w} [Fintype ι] [DecidableEq ι]
  [AddCommMonoid M]

/-- When one component changes, the sum changes by what this one changes. -/
theorem sum_component_update (components : ι → β) (i : ι) (value : β) (measure : β → M) :
    ∑ j, measure (Function.update components i value j) + measure (components i) =
      ∑ j, measure (components j) + measure value := by
  have hrest : ∀ j ∈ univ.erase i,
      measure (Function.update components i value j) = measure (components j) := by
    intro j hj
    rw [Function.update_of_ne (Finset.ne_of_mem_erase hj)]
  rw [← Finset.add_sum_erase univ (fun j => measure (components j)) (mem_univ i),
    ← Finset.add_sum_erase univ
      (fun j => measure (Function.update components i value j)) (mem_univ i),
    Finset.sum_congr rfl hrest, Function.update_self]
  rw [add_right_comm, add_comm (measure value), add_right_comm]

end Components

/-- Sums of remainders fall short of the sum unless every summand is small. -/
theorem sum_mod_eq_iff {ι : Type u} [Fintype ι] (values : ι → ℕ) {bound : ℕ}
    (hpos : 0 < bound) (extra : ℕ) :
    ∑ i, values i + extra = ∑ i, values i % bound ↔
      extra = 0 ∧ ∀ i, values i < bound := by
  have hle : ∀ i ∈ (univ : Finset ι), values i % bound ≤ values i :=
    fun i _ => Nat.mod_le _ _
  have hsum : ∑ i, values i % bound ≤ ∑ i, values i := Finset.sum_le_sum hle
  constructor
  · intro h
    have hextra : extra = 0 := by omega
    have heq : ∑ i, values i % bound = ∑ i, values i := by omega
    refine ⟨hextra, fun i => ?_⟩
    have hi := (Finset.sum_eq_sum_iff_of_le hle).mp heq i (mem_univ i)
    exact hi ▸ Nat.mod_lt _ hpos
  · intro hzero
    obtain ⟨rfl, hsmall⟩ := hzero
    rw [Nat.add_zero]
    exact Finset.sum_congr rfl fun i _ => (Nat.mod_eq_of_lt (hsmall i)).symm

end DaemonChoir.Foundation
