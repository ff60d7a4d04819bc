import DaemonChoir.Foundation.Interleaving
import Mathlib.Algebra.Group.Nat.Defs
import Mathlib.Data.Finset.Card
set_option autoImplicit false

/-!
# Foundation: counters that are loaded one at a time

Calls increment several counters, one atomic increment at a time, while a reader loads
the counters one after the other.  A loaded value is the number of the calls that had
made their increment by then.

Two counters that belong together, a part and a whole, are loaded at two moments.  What
can go wrong depends on which of them is loaded first and which of them a call increments
first.  A reader that loads the whole first sees every call that is between its two
increments on the side of the whole, but misses what is added to the whole afterwards; a
reader that loads the part first misses nothing of the whole that comes later, but sees
the calls under way on the side of the part.  The two comparisons below say exactly what
is weighed against what.
-/

namespace DaemonChoir.Foundation

universe u v w

section Counters

variable {μ : Type u} {ω : Type v} {ι : Type w} {effect : μ → ω → μ}

/-- A counter shows how often it was incremented. -/
theorem counter_foldl (read : μ → UInt64) {call : ω → Option ι}
    (law : ∀ memory operation,
      read (effect memory operation) =
        read memory + if (call operation).isSome then 1 else 0)
    (memory : μ) (operations : List ω) :
    read (operations.foldl effect memory) =
      read memory + UInt64.ofNat (operations.filterMap call).length := by
  induction operations using List.reverseRecOn with
  | nil => simp
  | append_singleton operations operation ih =>
      rw [List.foldl_append, List.foldl_cons, List.foldl_nil, law, ih,
        List.filterMap_append, List.length_append, UInt64.ofNat_add, UInt64.add_assoc]
      cases hcall : call operation with
      | none => simp [hcall]
      | some made => simp [hcall]

variable [DecidableEq ι]

/-- The calls that have made the increment that `call` looks for. -/
def callsOf (call : ω → Option ι) (operations : List ω) : Finset ι :=
  (operations.filterMap call).toFinset

/-- Where no call increments twice, a counter shows the number of the calls. -/
theorem counter_eq_card (read : μ → UInt64) {call : ω → Option ι}
    (law : ∀ memory operation,
      read (effect memory operation) =
        read memory + if (call operation).isSome then 1 else 0)
    {memory : μ} (start : read memory = 0) {operations : List ω}
    (distinct : (operations.filterMap call).Nodup) :
    read (operations.foldl effect memory) =
      UInt64.ofNat (callsOf call operations).card := by
  rw [counter_foldl read law, start, UInt64.zero_add, callsOf,
    List.toFinset_card_of_nodup distinct]

theorem card_callsOf_append {call : ω → Option ι} {front back : List ω}
    (distinct : ((front ++ back).filterMap call).Nodup) :
    (callsOf call (front ++ back)).card =
      (callsOf call front).card + (callsOf call back).card := by
  rw [List.filterMap_append] at distinct
  obtain ⟨hfront, hback, _⟩ := List.nodup_append.mp distinct
  rw [callsOf, callsOf, callsOf, List.filterMap_append,
    List.toFinset_card_of_nodup distinct, List.toFinset_card_of_nodup hfront,
    List.toFinset_card_of_nodup hback, List.length_append]

/-- The larger counter is loaded first, and every call increments it first: what is
added to the smaller one before its load is weighed against the calls that the first load
saw ahead.  Each time round of a counter weighs `2 ^ 64`. -/
theorem ofNat_add_le_iff_of_subset {small large : Finset ι} (ordered : small ⊆ large)
    (added : ℕ) :
    UInt64.ofNat (small.card + added) ≤ UInt64.ofNat large.card ↔
      added + 2 ^ 64 * (large.card / 2 ^ 64) ≤
        (large \ small).card + 2 ^ 64 * ((small.card + added) / 2 ^ 64) := by
  have hlarge := Finset.card_sdiff_add_card_eq_card ordered
  rw [UInt64.le_iff_toNat_le, UInt64.toNat_ofNat', UInt64.toNat_ofNat']
  omega

/-- The smaller counter is loaded first: what is added to the larger one before its load
helps, and what the first load saw of one counter only is weighed against the other. -/
theorem ofNat_le_add_iff (small large : Finset ι) (added : ℕ) :
    UInt64.ofNat small.card ≤ UInt64.ofNat (large.card + added) ↔
      (small \ large).card + 2 ^ 64 * ((large.card + added) / 2 ^ 64) ≤
        (large \ small).card + added + 2 ^ 64 * (small.card / 2 ^ 64) := by
  have hsmall := Finset.card_sdiff_add_card_inter small large
  have hlarge := Finset.card_sdiff_add_card_inter large small
  rw [Finset.inter_comm] at hlarge
  rw [UInt64.le_iff_toNat_le, UInt64.toNat_ofNat', UInt64.toNat_ofNat']
  omega

end Counters

/-! ## Loads -/

section Loads

variable {μ : Type u} {ω : Type v} {β : Type w} [DecidableEq ω] {effect : μ → ω → μ}

/-- The operations from the one that is `first` up to the next one that is `second`. -/
def between (first second : ω) (operations : List ω) : List ω :=
  before second (operations.dropWhile fun operation => operation ≠ first)

/-- The later of two loads has seen what the earlier one has, and what came between. -/
theorem before_eq_append_between {first second : ω} {operations : List ω}
    (h : Precedes first second operations) :
    before second operations = before first operations ++ between first second operations := by
  have hsplit : operations = before first operations ++
      operations.dropWhile fun operation => operation ≠ first :=
    List.takeWhile_append_dropWhile.symm
  conv_lhs => rw [hsplit]
  exact before_append_of_notMem h _

/-- A local variable keeps its value where its load does not occur. -/
theorem local_foldl_of_not_mem (loaded : μ → Option β) (read : μ → β) {load : ω}
    (law : ∀ memory operation,
      loaded (effect memory operation) =
        if operation = load then some (read memory) else loaded memory)
    {operations : List ω} (absent : load ∉ operations) (memory : μ) :
    loaded (operations.foldl effect memory) = loaded memory := by
  induction operations generalizing memory with
  | nil => rfl
  | cons operation operations ih =>
      rw [List.mem_cons, not_or] at absent
      rw [List.foldl_cons, ih absent.2, law, if_neg (Ne.symm absent.1)]

/-- What a local variable holds was read at its load. -/
theorem local_foldl (loaded : μ → Option β) (read : μ → β) {load : ω}
    (law : ∀ memory operation,
      loaded (effect memory operation) =
        if operation = load then some (read memory) else loaded memory)
    {memory : μ} (start : loaded memory = none) {operations : List ω}
    (once : operations.count load ≤ 1) {value : β}
    (h : loaded (operations.foldl effect memory) = some value) :
    value = read ((before load operations).foldl effect memory) := by
  induction operations generalizing memory with
  | nil =>
      rw [List.foldl_nil, start] at h
      cases h
  | cons operation operations ih =>
      by_cases hload : operation = load
      · subst hload
        have habsent : operation ∉ operations := by
          rw [List.count_cons_self] at once
          exact List.count_eq_zero.mp (by omega)
        rw [List.foldl_cons, local_foldl_of_not_mem loaded read law habsent, law, if_pos rfl] at h
        rw [← Option.some.inj h]
        simp [before]
      · have hbefore : before load (operation :: operations) =
            operation :: before load operations := by
          simp [before, hload]
        rw [hbefore, List.foldl_cons]
        apply ih
        · rw [law, if_neg hload, start]
        · rwa [List.count_cons_of_ne hload] at once
        · exact h

end Loads

end DaemonChoir.Foundation
