import DaemonChoir.Foundation.BoundedMap
set_option autoImplicit false

/-!
# Kernel: the scheduler probe (`ebpf-programs/cpu_sched.bpf.c`)

The three handlers as functions of the hash map they share.  What the kernel decides
is an input: whether the ring buffer has room, whether a map update goes through, the
processor, and the clock.

A handler takes the map and returns it, with the event that it submits, if any.  The three
lemmas about `lookup` say all that a handler does to the map, and the one about the latency
what it submits; the proofs on top of this module use these only.
-/

namespace DaemonChoir.Kernel

open DaemonChoir.Foundation

/-- `char[16]`; plain `char` is signed on the bpf target. -/
abbrev Comm : Type := Vector Int8 16

/-- `struct cpu_sched_event`. -/
structure CpuSchedEvent where
  prevCommHash : UInt64
  nextCommHash : UInt64
  latencyNs : UInt64
  cpuId : UInt32
  deriving DecidableEq, Repr, Inhabited

/-- `max_entries` of `wakeup_timestamps`. -/
def maxEntries : Nat := 10240

/-- `wakeup_timestamps`: task PID to wakeup timestamp in nanoseconds. -/
abbrev WakeupTimestamps : Type := BoundedMap maxEntries UInt32 UInt64

/-- The loop of `fnv1a_64_hash`. -/
def fnv1a64HashLoop (hash : UInt64) : List Int8 → UInt64
  | [] => hash
  | char :: rest =>
      if char = 0 then hash
      else fnv1a64HashLoop ((hash ^^^ char.toInt64.toUInt64) * 0x100000001b3) rest

/-- `fnv1a_64_hash`. -/
def fnv1a64Hash (str : Comm) : UInt64 := fnv1a64HashLoop 0xcbf29ce484222325 str.toList

/-- What `bpf_probe_read_kernel_str` leaves in a zeroed buffer: the string up to its
NUL, cut to 15 characters.  A read that faults (`none`) leaves zeros. -/
def probeReadKernelStr (src : Option Comm) : Comm :=
  match src with
  | none => Vector.replicate 16 0
  | some chars =>
      Vector.ofFn fun index =>
        if index.val < 15 ∧ ∀ earlier ≤ index, chars.get earlier ≠ 0 then chars.get index
        else 0

/-! ## Tracepoint arguments -/

/-- The fields of `trace_event_raw_sched_wakeup` that are read. -/
structure SchedWakeup where
  pid : Int32
  deriving DecidableEq, Repr, Inhabited

/-- The fields of `trace_event_raw_sched_switch` that are read. -/
structure SchedSwitch where
  prevComm : Option Comm
  nextComm : Option Comm
  nextPid : Int32
  deriving DecidableEq, Repr

/-- The fields of `trace_event_raw_sched_process_exit` that are read. -/
structure SchedProcessExit where
  pid : Int32
  deriving DecidableEq, Repr, Inhabited

/-! ## The handlers -/

/-- `bpf_map_update_elem`: without effect when the kernel refuses it, or when the key is
new and the map full. -/
def bpfMapUpdateElem (map : WakeupTimestamps) (key : UInt32) (value : UInt64)
    (accepted : Bool) : WakeupTimestamps :=
  if accepted then (map.update key value).getD map else map

/-- `handle_sched_wakeup`. -/
def handleSchedWakeup (map : WakeupTimestamps) (args : SchedWakeup) (ts : UInt64)
    (accepted : Bool) : WakeupTimestamps :=
  bpfMapUpdateElem map args.pid.toUInt32 ts accepted

/-- `handle_sched_switch`: the map afterwards and the event it submits. -/
def handleSchedSwitch (map : WakeupTimestamps) (args : SchedSwitch) (now : UInt64)
    (reserved : Bool) (cpu : UInt32) : WakeupTimestamps × Option CpuSchedEvent :=
  if !reserved then (map, none)
  else
    let event : CpuSchedEvent :=
      { prevCommHash := fnv1a64Hash (probeReadKernelStr args.prevComm)
        nextCommHash := fnv1a64Hash (probeReadKernelStr args.nextComm)
        latencyNs := 0
        cpuId := cpu }
    match map.lookup args.nextPid.toUInt32 with
    | some wakeupTs =>
        let latencyNs := if wakeupTs ≤ now then now - wakeupTs else 0
        (map.erase args.nextPid.toUInt32, some { event with latencyNs := latencyNs })
    | none => (map, some event)

/-- `handle_process_exit`. -/
def handleProcessExit (map : WakeupTimestamps) (args : SchedProcessExit) :
    WakeupTimestamps :=
  map.erase args.pid.toUInt32

/-! ## What each handler does to one entry -/

theorem lookup_handleSchedWakeup (map : WakeupTimestamps) (args : SchedWakeup)
    (ts : UInt64) (accepted : Bool) (pid : UInt32) :
    (handleSchedWakeup map args ts accepted).lookup pid =
      if accepted = true ∧ pid = args.pid.toUInt32 ∧
          (map.update args.pid.toUInt32 ts).isSome = true
        then some ts else map.lookup pid := by
  unfold handleSchedWakeup bpfMapUpdateElem
  cases accepted with
  | false => simp
  | true =>
      cases hupdate : map.update args.pid.toUInt32 ts with
      | none => simp
      | some after => simpa using BoundedMap.lookup_of_update hupdate pid

theorem lookup_handleSchedSwitch (map : WakeupTimestamps) (args : SchedSwitch)
    (now : UInt64) (reserved : Bool) (cpu : UInt32) (pid : UInt32) :
    (handleSchedSwitch map args now reserved cpu).1.lookup pid =
      if reserved = true ∧ pid = args.nextPid.toUInt32 then none else map.lookup pid := by
  unfold handleSchedSwitch
  cases reserved with
  | false => simp
  | true =>
      cases hentry : map.lookup args.nextPid.toUInt32 with
      | none =>
          by_cases hpid : pid = args.nextPid.toUInt32
          · simp [hpid, hentry]
          · simp [hpid]
      | some wakeupTs => simpa [hentry] using BoundedMap.lookup_erase map _ pid

theorem lookup_handleProcessExit (map : WakeupTimestamps) (args : SchedProcessExit)
    (pid : UInt32) :
    (handleProcessExit map args).lookup pid =
      if pid = args.pid.toUInt32 then none else map.lookup pid :=
  BoundedMap.lookup_erase map _ pid

/-- A submitted latency that is not zero is the time since the entry of `next_pid`. -/
theorem latency_of_handleSchedSwitch {map : WakeupTimestamps} {args : SchedSwitch}
    {now : UInt64} {reserved : Bool} {cpu : UInt32} {event : CpuSchedEvent}
    (h : (handleSchedSwitch map args now reserved cpu).2 = some event)
    (hpos : 0 < event.latencyNs) :
    ∃ wakeupTs, map.lookup args.nextPid.toUInt32 = some wakeupTs ∧
      wakeupTs.toNat + event.latencyNs.toNat = now.toNat := by
  unfold handleSchedSwitch at h
  cases reserved with
  | false => simp at h
  | true =>
      cases hentry : map.lookup args.nextPid.toUInt32 with
      | none =>
          simp only [hentry, Bool.not_true, Bool.false_eq_true, if_false,
            Option.some.injEq] at h
          rw [← h] at hpos
          exact absurd hpos (by simp)
      | some wakeupTs =>
          simp only [hentry, Bool.not_true, Bool.false_eq_true, if_false,
            Option.some.injEq] at h
          rw [← h] at hpos ⊢
          refine ⟨wakeupTs, rfl, ?_⟩
          by_cases hle : wakeupTs ≤ now
          · rw [if_pos hle, UInt64.toNat_sub_of_le _ _ hle]
            have hnat : wakeupTs.toNat ≤ now.toNat := UInt64.le_iff_toNat_le.mp hle
            omega
          · rw [if_neg hle] at hpos
            exact absurd hpos (by simp)

end DaemonChoir.Kernel
