import DaemonChoir.Foundation.Run
import Mathlib.Data.List.Perm.Basic
import Mathlib.Data.List.TakeWhile
set_option autoImplicit false

/-!
# Foundation: interleaved sequences of atomic writes

Every thread is the list of atomic writes it has still to do.  A step names a
thread and performs its next write on the common memory, so the runs are exactly
the interleavings of the threads.

The memory in the end is the result of the writes in the order in which they were performed
(`memory_eq`), and these are the writes of all threads, each in its own order
(`executed_perm_of_complete`, `executed_precedes`).  A register, a part of the memory that
every write either sets or leaves alone, holds what the last write to it has set
(`register_foldl`).
-/

namespace DaemonChoir.Foundation

universe u v w

/-- A memory and the writes each thread has still to do. -/
structure Threads (μ : Type u) (ω : Type v) where
  memory : μ
  pending : List (List ω)

namespace Threads

variable {μ : Type u} {ω : Type v} {β : Type w}

/-- The next write of a thread. -/
def next? (threads : Threads μ ω) (thread : Nat) : Option ω :=
  threads.pending[thread]?.bind List.head?

/-- Let one thread perform its next write. -/
def step (effect : μ → ω → μ) (threads : Threads μ ω) (thread : Nat) :
    Option (Threads μ ω) :=
  match threads.pending[thread]? with
  | some (write :: rest) =>
      some
        { memory := effect threads.memory write
          pending := threads.pending.set thread rest }
  | _ => none

/-- No thread has anything left to do. -/
def Complete (threads : Threads μ ω) : Prop :=
  ∀ writes ∈ threads.pending, writes = []

instance [DecidableEq ω] (threads : Threads μ ω) : Decidable threads.Complete :=
  inferInstanceAs (Decidable (∀ writes ∈ threads.pending, writes = []))

/-- The writes of a run, in the order they took place. -/
def executed (trace : List (Threads μ ω × Nat)) : List ω :=
  trace.filterMap fun visit => visit.1.next? visit.2

/-- What one step does. -/
theorem step_cases {effect : μ → ω → μ} {threads after : Threads μ ω} {thread : Nat}
    (h : step effect threads thread = some after) :
    ∃ write rest, threads.pending[thread]? = some (write :: rest) ∧
      threads.next? thread = some write ∧
      after.memory = effect threads.memory write ∧
      after.pending = threads.pending.set thread rest := by
  unfold step at h
  split at h
  · rename_i write rest hpending
    cases h
    exact ⟨write, rest, hpending, by simp [next?, hpending], rfl, rfl⟩
  · cases h

theorem executed_append (front back : List (Threads μ ω × Nat)) :
    executed (front ++ back) = executed front ++ executed back :=
  List.filterMap_append

/-- The memory at the end of a run is the result of its writes in order. -/
theorem memory_eq {effect : μ → ω → μ} {start final : Threads μ ω}
    {trace : List (Threads μ ω × Nat)} (run : Run (step effect) start trace final) :
    final.memory = (executed trace).foldl effect start.memory := by
  induction run with
  | nil => rfl
  | snoc _ taken ih =>
      obtain ⟨write, rest, _, hnext, hmemory, _⟩ := step_cases taken
      rw [executed_append, List.foldl_append, ← ih, hmemory]
      simp [executed, hnext]

/-- Taking the next write of a thread out of the pending ones. -/
theorem flatten_set_perm {pending : List (List ω)} {thread : Nat} {write : ω}
    {rest : List ω} (h : pending[thread]? = some (write :: rest)) :
    (write :: (pending.set thread rest).flatten).Perm pending.flatten := by
  induction pending generalizing thread with
  | nil => simp at h
  | cons writes others ih =>
      cases thread with
      | zero =>
          simp only [List.getElem?_cons_zero, Option.some.injEq] at h
          subst h
          simp
      | succ thread =>
          simp only [List.getElem?_cons_succ] at h
          simp only [List.set_cons_succ, List.flatten_cons]
          exact List.perm_middle.symm.trans ((ih h).append_left writes)

/-- Nothing is lost or done twice: the writes done and the writes still pending are
the writes there were at the start. -/
theorem executed_perm {effect : μ → ω → μ} {start final : Threads μ ω}
    {trace : List (Threads μ ω × Nat)} (run : Run (step effect) start trace final) :
    (executed trace ++ final.pending.flatten).Perm start.pending.flatten := by
  induction run with
  | nil => exact .refl _
  | snoc _ taken ih =>
      obtain ⟨write, rest, hpending, hnext, _, hafter⟩ := step_cases taken
      rw [executed_append, hafter, List.append_assoc]
      refine List.Perm.trans ?_ ih
      simpa [executed, hnext] using (flatten_set_perm hpending).append_left _

/-- When every thread is done, exactly its writes have been performed. -/
theorem executed_perm_of_complete {effect : μ → ω → μ} {start final : Threads μ ω}
    {trace : List (Threads μ ω × Nat)} (run : Run (step effect) start trace final)
    (complete : final.Complete) :
    (executed trace).Perm start.pending.flatten := by
  have hperm := executed_perm run
  rwa [List.flatten_eq_nil_iff.mpr complete, List.append_nil] at hperm

end Threads

/-! ## What precedes what -/

section Precedes

variable {μ : Type u} {ω : Type v} [DecidableEq ω] {first second : ω}
  {writes front : List ω}

/-- The writes before a given one. -/
def before (mark : ω) (writes : List ω) : List ω :=
  writes.takeWhile fun write => write ≠ mark

theorem before_isInitial (mark : ω) (writes : List ω) : before mark writes <+: writes :=
  ⟨_, List.takeWhile_append_dropWhile⟩

theorem before_of_notMem {mark : ω} (absent : mark ∉ writes) : before mark writes = writes :=
  List.takeWhile_eq_self_iff.mpr fun _ hwrite =>
    decide_eq_true (ne_of_mem_of_not_mem hwrite absent)

theorem before_append_of_notMem {mark : ω} (absent : mark ∉ front) (back : List ω) :
    before mark (front ++ back) = front ++ before mark back :=
  List.takeWhile_append_of_pos fun _ hwrite =>
    decide_eq_true (ne_of_mem_of_not_mem hwrite absent)

theorem before_append_of_mem {mark : ω} (hmem : mark ∈ front) (back : List ω) :
    before mark (front ++ back) = before mark front := by
  unfold before
  rw [List.takeWhile_append, if_neg]
  intro hlength
  have hself := (before_isInitial mark front).eq_of_length hlength
  simpa using List.takeWhile_eq_self_iff.mp hself mark hmem

/-- No `second` comes before the first `first`. -/
def Precedes (first second : ω) (writes : List ω) : Prop :=
  second ∉ before first writes

instance (first second : ω) (writes : List ω) : Decidable (Precedes first second writes) :=
  inferInstanceAs (Decidable (second ∉ writes.takeWhile fun write => write ≠ first))

namespace Precedes

theorem of_notMem (absent : second ∉ writes) : Precedes first second writes :=
  fun h => absent ((before_isInitial _ _).subset h)

/-- Where `second` occurs, `first` does too. -/
theorem mem (h : Precedes first second writes) (hsecond : second ∈ writes) :
    first ∈ writes := by
  by_contra absent
  rw [Precedes, before_of_notMem absent] at h
  exact h hsecond

/-- After `first` the writes go on as they like. -/
theorem append_of_mem (h : Precedes first second front) (hmem : first ∈ front)
    (back : List ω) : Precedes first second (front ++ back) := by
  rwa [Precedes, before_append_of_mem hmem]

theorem append {back : List ω} (hfront : Precedes first second front)
    (hback : Precedes first second back) : Precedes first second (front ++ back) := by
  by_cases hmem : first ∈ front
  · exact hfront.append_of_mem hmem back
  · rw [Precedes, before_of_notMem hmem] at hfront
    rw [Precedes, before_append_of_notMem hmem, List.mem_append, not_or]
    exact ⟨hfront, hback⟩

theorem of_isInitial (h : Precedes first second writes) (hfront : front <+: writes) :
    Precedes first second front := by
  obtain ⟨back, rfl⟩ := hfront
  by_cases hmem : first ∈ front
  · rwa [Precedes, before_append_of_mem hmem] at h
  · rw [Precedes, before_append_of_notMem hmem, List.mem_append, not_or] at h
    exact of_notMem h.1

theorem of_cons {write : ω} (h : Precedes first second (write :: writes))
    (hne : write ≠ first) : write ≠ second ∧ Precedes first second writes := by
  have hfront : first ∉ [write] := by simpa using Ne.symm hne
  rw [Precedes, ← List.singleton_append, before_append_of_notMem hfront, List.mem_append,
    not_or, List.mem_singleton] at h
  exact ⟨Ne.symm h.1, h.2⟩

theorem flatMap {α : Type w} {items : List α} {image : α → List ω}
    (h : ∀ item ∈ items, Precedes first second (image item)) :
    Precedes first second (items.flatMap image) := by
  induction items with
  | nil => exact of_notMem (by simp)
  | cons item items ih =>
      rw [List.flatMap_cons]
      exact (h item List.mem_cons_self).append
        (ih fun other hother => h other (List.mem_cons_of_mem _ hother))

end Precedes

/-- An order that every thread keeps is kept by the run, whatever the interleaving.  The
invariant: a thread keeps the order in what it has still to do, or `first` is done. -/
theorem Threads.executed_precedes {effect : μ → ω → μ} {start final : Threads μ ω}
    {trace : List (Threads μ ω × Nat)} (run : Run (step effect) start trace final)
    (ordered : ∀ writes ∈ start.pending, Precedes first second writes) :
    Precedes first second (executed trace) := by
  suffices h : Precedes first second (executed trace) ∧
      ∀ writes ∈ final.pending, first ∈ executed trace ∨ Precedes first second writes from h.1
  induction run with
  | nil =>
      exact ⟨.of_notMem (by simp [executed]), fun writes hwrites => .inr (ordered writes hwrites)⟩
  | snoc earlier taken ih =>
      rename_i trace threads next thread
      obtain ⟨write, rest, hpending, hnext, _, hafter⟩ := step_cases taken
      have hlast : executed (trace ++ [(threads, thread)]) = executed trace ++ [write] := by
        rw [executed_append]
        simp [executed, hnext]
      rw [hlast, hafter]
      by_cases hdone : first ∈ executed trace
      · exact ⟨ih.1.append_of_mem hdone _, fun _ _ => .inl (List.mem_append_left _ hdone)⟩
      have hopen : ∀ writes ∈ threads.pending, Precedes first second writes :=
        fun writes hwrites => (ih.2 writes hwrites).resolve_left hdone
      by_cases hfirst : write = first
      · subst hfirst
        refine ⟨ih.1.append ?_, fun _ _ => .inl (by simp)⟩
        simp [Precedes, before]
      · obtain ⟨hsecond, hrest⟩ := (hopen _ (List.mem_of_getElem? hpending)).of_cons hfirst
        refine ⟨ih.1.append (.of_notMem (by simpa using Ne.symm hsecond)), ?_⟩
        intro writes hwrites
        rcases List.mem_or_eq_of_mem_set hwrites with hold | rfl
        · exact .inr (hopen writes hold)
        · exact .inr hrest

end Precedes

/-! ## Registers -/

section Registers

variable {μ : Type u} {ω : Type v} {β : Type w}

/-- The value of the last write that `value` assigns one to. -/
def lastWrite (value : ω → Option β) (writes : List ω) : Option β :=
  (writes.filterMap value).getLast?

theorem lastWrite_append_singleton (value : ω → Option β) (writes : List ω) (write : ω) :
    lastWrite value (writes ++ [write]) = (value write).or (lastWrite value writes) := by
  unfold lastWrite
  rw [List.filterMap_append]
  cases hvalue : value write with
  | none => simp [hvalue]
  | some written => simp [hvalue]

theorem lastWrite_append (value : ω → Option β) (front back : List ω) :
    lastWrite value (front ++ back) = (lastWrite value back).or (lastWrite value front) := by
  unfold lastWrite
  rw [List.filterMap_append, List.getLast?_append]

theorem lastWrite_map {γ : Type w} (value : ω → Option β) (image : β → γ)
    (writes : List ω) :
    lastWrite (fun write => (value write).map image) writes =
      (lastWrite value writes).map image := by
  unfold lastWrite
  rw [← List.map_filterMap, List.getLast?_map]

/-- The last write comes from one of the writes. -/
theorem mem_of_lastWrite {value : ω → Option β} {writes : List ω} {written : β}
    (h : lastWrite value writes = some written) :
    ∃ write ∈ writes, value write = some written :=
  List.mem_filterMap.mp (List.mem_of_getLast? h)

/-- There is a last write when there is a write. -/
theorem lastWrite_eq_none_iff {value : ω → Option β} {writes : List ω} :
    lastWrite value writes = none ↔ ∀ write ∈ writes, value write = none := by
  rw [lastWrite, List.getLast?_eq_none_iff, List.filterMap_eq_nil_iff]

/-- A register keeps its value until the next write to it. -/
theorem register_foldl {effect : μ → ω → μ} {healthy : μ → Prop} {register : μ → β}
    {value : ω → Option β}
    (keep : ∀ memory write, healthy memory → healthy (effect memory write))
    (law : ∀ memory write, healthy memory →
      register (effect memory write) = (value write).getD (register memory))
    {memory : μ} (start : healthy memory) (writes : List ω) :
    healthy (writes.foldl effect memory) ∧
      register (writes.foldl effect memory) =
        (lastWrite value writes).getD (register memory) := by
  induction writes using List.reverseRecOn with
  | nil => exact ⟨start, rfl⟩
  | append_singleton writes write ih =>
      rw [List.foldl_append, List.foldl_cons, List.foldl_nil]
      refine ⟨keep _ _ ih.1, ?_⟩
      rw [law _ _ ih.1, ih.2, lastWrite_append_singleton]
      cases value write <;> rfl

end Registers

end DaemonChoir.Foundation
