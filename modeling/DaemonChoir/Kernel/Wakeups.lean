import DaemonChoir.Kernel.CpuSched
import DaemonChoir.Foundation.Run
import DaemonChoir.Foundation.Series
set_option autoImplicit false

/-!
# Kernel: which wakeup a latency is measured from

A run fires the three handlers in any order, each as one step, under a clock that does
not go back.  An entry of the map is the latest wakeup of its task as long as every
switch-in takes the entry with it; the early return of `handle_sched_switch` does not.

`LatencyFromWakeup` is the property of one submission: its latency is the time since a
wakeup of the task that is switched in, with no switch-in, no exit and no recorded wakeup
after it.  `EntriesWoken` is the property of a state: an entry of the map stands for a
wakeup after which its task was neither switched in nor has exited.  Every step keeps both
but a switch-in whose reservation fails while there is an entry of its task; such a step
leaves the entry behind (`LeavesEntry`), and from then on it stands for no such wakeup.
-/

namespace DaemonChoir.Kernel

open DaemonChoir.Foundation

/-- One execution of a handler, with what the kernel answers. -/
inductive Handler where
  | schedWakeup (args : SchedWakeup) (accepted : Bool)
  | schedSwitch (args : SchedSwitch) (reserved : Bool) (cpu : UInt32)
  | processExit (args : SchedProcessExit)

/-- An execution at a reading of `bpf_ktime_get_ns`. -/
structure Firing where
  now : UInt64
  handler : Handler

/-- The state the handlers share, and the last reading of the clock. -/
structure Probe where
  ktime : UInt64
  wakeupTimestamps : WakeupTimestamps

/-- The loaded programs. -/
def Probe.loaded : Probe :=
  { ktime := 0, wakeupTimestamps := .empty maxEntries UInt32 UInt64 }

/-- The map after an execution, and the event it submits. -/
def Probe.fire (probe : Probe) (firing : Firing) :
    WakeupTimestamps × Option CpuSchedEvent :=
  match firing.handler with
  | .schedWakeup args accepted =>
      (handleSchedWakeup probe.wakeupTimestamps args firing.now accepted, none)
  | .schedSwitch args reserved cpu =>
      handleSchedSwitch probe.wakeupTimestamps args firing.now reserved cpu
  | .processExit args => (handleProcessExit probe.wakeupTimestamps args, none)

/-- One step; the clock does not go back. -/
def Probe.step (probe : Probe) (firing : Firing) : Option Probe :=
  if probe.ktime ≤ firing.now then
    some { ktime := firing.now, wakeupTimestamps := (probe.fire firing).1 }
  else none

/-- A step of a run. -/
abbrev Visit : Type := Probe × Firing

namespace Visit

/-! ## What happens to a task at a visit -/

/-- A wakeup of the task, recorded or not. -/
def Wakes (pid : UInt32) (visit : Visit) : Prop :=
  match visit.2.handler with
  | .schedWakeup args _ => args.pid.toUInt32 = pid
  | _ => False

/-- A wakeup of the task that is recorded in the map. -/
def Records (pid : UInt32) (visit : Visit) : Prop :=
  match visit.2.handler with
  | .schedWakeup args accepted =>
      args.pid.toUInt32 = pid ∧ accepted = true ∧
        (visit.1.wakeupTimestamps.update args.pid.toUInt32 visit.2.now).isSome = true
  | _ => False

/-- The task is switched in. -/
def SwitchesIn (pid : UInt32) (visit : Visit) : Prop :=
  match visit.2.handler with
  | .schedSwitch args _ _ => args.nextPid.toUInt32 = pid
  | _ => False

/-- The task exits. -/
def Exits (pid : UInt32) (visit : Visit) : Prop :=
  match visit.2.handler with
  | .processExit args => args.pid.toUInt32 = pid
  | _ => False

/-- The reservation fails while the task that is switched in has an entry. -/
def LeavesEntry (visit : Visit) : Prop :=
  match visit.2.handler with
  | .schedSwitch args reserved _ =>
      reserved = false ∧
        (visit.1.wakeupTimestamps.lookup args.nextPid.toUInt32).isSome = true
  | _ => False

theorem Records.wakes {pid : UInt32} {visit : Visit} (h : visit.Records pid) :
    visit.Wakes pid := by
  unfold Records at h
  unfold Wakes
  cases hhandler : visit.2.handler with
  | schedWakeup args accepted => simp only [hhandler] at h; exact h.1
  | schedSwitch args reserved cpu => simp only [hhandler] at h
  | processExit args => simp only [hhandler] at h

end Visit

/-- The entry of a task after a step, by what happened to the task. -/
theorem Probe.lookup_step {probe next : Probe} {firing : Firing}
    (taken : probe.step firing = some next) {pid : UInt32} {stamp : UInt64}
    (hentry : next.wakeupTimestamps.lookup pid = some stamp) :
    (Visit.Records pid (probe, firing) ∧ firing.now = stamp) ∨
      (¬ Visit.Records pid (probe, firing) ∧ ¬ Visit.Exits pid (probe, firing) ∧
        (Visit.SwitchesIn pid (probe, firing) → Visit.LeavesEntry (probe, firing)) ∧
        probe.wakeupTimestamps.lookup pid = some stamp) := by
  unfold step at taken
  split at taken
  · cases taken
    simp only [fire] at hentry
    cases hhandler : firing.handler with
    | schedWakeup args accepted =>
        simp only [hhandler] at hentry
        rw [lookup_handleSchedWakeup] at hentry
        split at hentry
        · rename_i hrecorded
          obtain ⟨haccepted, hpid, hupdate⟩ := hrecorded
          refine .inl ⟨?_, Option.some.inj hentry⟩
          simp only [Visit.Records, hhandler]
          exact ⟨hpid.symm, haccepted, hupdate⟩
        · rename_i hnot
          refine .inr ⟨?_, ?_, ?_, hentry⟩
          · simp only [Visit.Records, hhandler]
            intro hrecords
            obtain ⟨hpid, haccepted, hupdate⟩ := hrecords
            exact hnot ⟨haccepted, hpid.symm, hupdate⟩
          · simp only [Visit.Exits, hhandler, not_false_eq_true]
          · simp only [Visit.SwitchesIn, hhandler, false_implies]
    | schedSwitch args reserved cpu =>
        simp only [hhandler] at hentry
        rw [lookup_handleSchedSwitch] at hentry
        split at hentry
        · cases hentry
        · rename_i hnot
          refine .inr ⟨?_, ?_, ?_, hentry⟩
          · simp only [Visit.Records, hhandler, not_false_eq_true]
          · simp only [Visit.Exits, hhandler, not_false_eq_true]
          · simp only [Visit.SwitchesIn, Visit.LeavesEntry, hhandler]
            intro hpid
            refine ⟨?_, by rw [hpid, hentry]; rfl⟩
            cases reserved with
            | false => rfl
            | true => exact absurd ⟨rfl, hpid.symm⟩ hnot
    | processExit args =>
        simp only [hhandler] at hentry
        rw [lookup_handleProcessExit] at hentry
        split at hentry
        · cases hentry
        · rename_i hnot
          refine .inr ⟨?_, ?_, ?_, hentry⟩
          · simp only [Visit.Records, hhandler, not_false_eq_true]
          · simp only [Visit.Exits, hhandler]
            exact fun hpid => hnot hpid.symm
          · simp only [Visit.SwitchesIn, hhandler, false_implies]
  · cases taken

/-! ## Entries and the history of their tasks -/

/-- While no switch-in leaves its entry, an entry is the time of a wakeup that was
recorded and after which its task was neither switched in, nor exited, nor woken and
recorded again. -/
theorem entry_since {trace : List Visit} {probe : Probe}
    (run : Run Probe.step Probe.loaded trace probe)
    (htaken : ∀ visit ∈ trace, ¬ Visit.LeavesEntry visit) {pid : UInt32} {stamp : UInt64}
    (hentry : probe.wakeupTimestamps.lookup pid = some stamp) :
    Since (fun wake : Visit => wake.Records pid ∧ wake.2.now = stamp)
      (fun later => later.SwitchesIn pid ∨ later.Exits pid ∨ later.Records pid) trace := by
  induction run with
  | nil => cases hentry.symm.trans (BoundedMap.lookup_empty pid)
  | @snoc trace before next firing _ taken ih =>
      rw [since_append_singleton_iff]
      rcases Probe.lookup_step taken hentry with ⟨hrecords, hnow⟩ |
        ⟨hrecords, hexits, hswitches, hbefore⟩
      · exact .inl ⟨hrecords, hnow⟩
      · have hkept : ¬ Visit.SwitchesIn pid (before, firing) :=
          fun hswitch => htaken (before, firing) (by simp) (hswitches hswitch)
        have hearlier := ih (fun visit hmem => htaken visit (List.mem_append_left _ hmem))
          hbefore
        refine .inr ⟨?_, hearlier⟩
        intro hcase
        rcases hcase with hswitch | hexit | hrecord
        · exact hkept hswitch
        · exact hexits hexit
        · exact hrecords hrecord

/-- Every task with an entry has been woken after its latest switch-in and exit. -/
def EntriesWoken (history : List Visit) (probe : Probe) : Prop :=
  ∀ pid stamp, probe.wakeupTimestamps.lookup pid = some stamp →
    Since (Visit.Wakes pid) (fun later => later.SwitchesIn pid ∨ later.Exits pid) history

/-- A positive latency submitted at the visit is the time since a wakeup of the task
switched in, after which there was no switch-in, no exit and no recorded wakeup of it. -/
def LatencyFromWakeup (history : List Visit) (visit : Visit) : Prop :=
  ∀ args reserved cpu, visit.2.handler = .schedSwitch args reserved cpu →
    ∀ event, (visit.1.fire visit.2).2 = some event → 0 < event.latencyNs →
      Since
        (fun wake => wake.Wakes args.nextPid.toUInt32 ∧
          wake.2.now.toNat + event.latencyNs.toNat = visit.2.now.toNat)
        (fun later => later.SwitchesIn args.nextPid.toUInt32 ∨
          later.Exits args.nextPid.toUInt32 ∨ later.Records args.nextPid.toUInt32)
        history

/-- Both properties throughout a run. -/
structure MeasuresWakeups (trace : List Visit) : Prop where
  /-- At every state of the run. -/
  entries : ∀ front back probe, trace = front ++ back →
    Run Probe.step Probe.loaded front probe → EntriesWoken front probe
  /-- At every submission. -/
  latencies : ∀ front visit back, trace = front ++ visit :: back →
    LatencyFromWakeup front visit

/-- A run in which every switch-in takes its entry measures from the right wakeups. -/
theorem measures_of_taken {trace : List Visit} {final : Probe}
    (run : Run Probe.step Probe.loaded trace final)
    (htaken : ∀ visit ∈ trace, ¬ Visit.LeavesEntry visit) : MeasuresWakeups trace := by
  refine ⟨?_, ?_⟩
  · intro front back probe hsplit hfront pid stamp hentry
    subst hsplit
    have hbefore : ∀ visit ∈ front, ¬ Visit.LeavesEntry visit :=
      fun visit hmem => htaken visit (List.mem_append_left _ hmem)
    apply (entry_since hfront hbefore hentry).mono (fun wake h => h.1.wakes)
    intro later hcase
    rcases hcase with hswitch | hexit
    · exact .inl hswitch
    · exact .inr (.inl hexit)
  · intro front visit back hsplit args reserved cpu hhandler event hevent hpos
    subst hsplit
    obtain ⟨hfront, _⟩ := run.at_visit
    have hbefore : ∀ earlier ∈ front, ¬ Visit.LeavesEntry earlier :=
      fun earlier hmem => htaken earlier (List.mem_append_left _ hmem)
    simp only [Probe.fire, hhandler] at hevent
    obtain ⟨wakeupTs, hentry, hlatency⟩ := latency_of_handleSchedSwitch hevent hpos
    refine (entry_since hfront hbefore hentry).mono ?_ fun later h => h
    intro wake hwake
    obtain ⟨hrecords, rfl⟩ := hwake
    exact ⟨hrecords.wakes, hlatency⟩

/-- An entry that a switch-in leaves is not newer than that switch-in. -/
theorem not_measures_of_left {trace : List Visit} {final : Probe}
    (run : Run Probe.step Probe.loaded trace final) {visit : Visit} (hmem : visit ∈ trace)
    (hleft : visit.LeavesEntry) : ¬ MeasuresWakeups trace := by
  intro hmeasures
  obtain ⟨front, back, next, rfl, hfront, taken, _⟩ := run.of_mem hmem
  have hprefix : Run Probe.step Probe.loaded (front ++ [visit]) next := hfront.snoc taken
  have hwoken := hmeasures.entries (front ++ [visit]) back next (by simp) hprefix
  obtain ⟨before, firing⟩ := visit
  unfold Visit.LeavesEntry at hleft
  cases hhandler : firing.handler with
  | schedWakeup args accepted => simp only [hhandler] at hleft
  | processExit args => simp only [hhandler] at hleft
  | schedSwitch args reserved cpu =>
      simp only [hhandler] at hleft
      obtain ⟨rfl, hsome⟩ := hleft
      obtain ⟨stamp, hentry⟩ := Option.isSome_iff_exists.mp hsome
      have hkept : next.wakeupTimestamps.lookup args.nextPid.toUInt32 = some stamp := by
        unfold Probe.step at taken
        split at taken
        · cases taken
          simp only [Probe.fire, hhandler]
          rw [lookup_handleSchedSwitch, if_neg (by simp)]
          exact hentry
        · cases taken
      rcases since_append_singleton_iff.mp (hwoken _ _ hkept) with hwakes | ⟨hnot, _⟩
      · simp only [Visit.Wakes, hhandler] at hwakes
      · exact hnot (.inl (by simp only [Visit.SwitchesIn, hhandler]))

/-- A run measures every latency from the right wakeup exactly when no switch-in whose
reservation fails finds an entry of its task. -/
theorem measures_wakeups_iff {trace : List Visit} {final : Probe}
    (run : Run Probe.step Probe.loaded trace final) :
    MeasuresWakeups trace ↔ ∀ visit ∈ trace, ¬ Visit.LeavesEntry visit := by
  constructor
  · intro hmeasures visit hmem hleft
    exact not_measures_of_left run hmem hleft hmeasures
  · exact measures_of_taken run

/-! ## Two runs -/

/-- Task 7 is switched in at the given time. -/
def switchTo7 (now : UInt64) (reserved : Bool) : Firing :=
  { now := now
    handler := .schedSwitch { prevComm := none, nextComm := none, nextPid := 7 } reserved 0 }

/-- Task 7 is woken at time 10. -/
def wake7 : Firing := { now := 10, handler := .schedWakeup { pid := 7 } true }

/-- Woken at 10 and switched in at 30 with room in the ring buffer. -/
theorem measures_wakeups_iff_reserved :
    ∃ trace final, Run Probe.step Probe.loaded trace final ∧
      trace.map Prod.snd = [wake7, switchTo7 30 true] ∧ MeasuresWakeups trace := by
  have run : Run Probe.step Probe.loaded _ _ :=
    execute_sound [wake7, switchTo7 30 true] rfl
  refine ⟨_, _, run, rfl, (measures_wakeups_iff run).mpr ?_⟩
  simp [Visit.LeavesEntry, wake7, switchTo7]

/-- Woken at 10, switched in at 20 without room in the ring buffer, preempted, and
switched in again at 30: the reported latency is 20, measured from the wakeup at 10. -/
theorem not_always_measures_wakeups :
    ¬ ∀ (trace : List Visit) (final : Probe),
        Run Probe.step Probe.loaded trace final → MeasuresWakeups trace := by
  intro hclaim
  have run : Run Probe.step Probe.loaded _ _ :=
    execute_sound [wake7, switchTo7 20 false, switchTo7 30 true] rfl
  have hlatency := (hclaim _ _ run).latencies [_, _] _ [] rfl
  have hsince := hlatency _ true 0 rfl _ rfl (by decide)
  rw [← List.singleton_append, since_append_singleton_iff] at hsince
  rcases hsince with ⟨hwakes, _⟩ | ⟨hnot, _⟩
  · exact hwakes
  · exact hnot (.inl rfl)

end DaemonChoir.Kernel
