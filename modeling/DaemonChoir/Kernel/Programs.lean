import DaemonChoir.Common.BpfEvents
import DaemonChoir.Kernel.ProcLifecycle
set_option autoImplicit false

/-!
# Kernel: the remaining probes, and all four together

`ebpf-programs/mem_pressure.bpf.c` and `ebpf-programs/net_io.bpf.c` with one handler each,
and what every handler leaves in the ring buffer of its program.
-/

namespace DaemonChoir.Kernel

open DaemonChoir.Common DaemonChoir.Foundation

/-! ## `mem_pressure.bpf.c` -/

/-- `struct mem_pressure_event`. -/
structure MemPressureEvent where
  pagesReclaimed : UInt64
  zone : UInt32
  deriving DecidableEq, Repr, Inhabited

/-- The fields of `trace_event_raw_mm_vmscan_shrink_inactive_to_succ` that are read. -/
structure ShrinkInactive where
  nid : Int32
  nrReclaimed : UInt64
  deriving DecidableEq, Repr, Inhabited

/-- `handle_mm_vmscan`. -/
def handleMmVmscan (reserved : Bool) (args : ShrinkInactive) : Option MemPressureEvent :=
  if !reserved then none
  else some { pagesReclaimed := args.nrReclaimed, zone := args.nid.toUInt32 }

/-! ## `net_io.bpf.c` -/

namespace NetIo

/-- `struct net_io_event`. -/
structure NetIoEvent where
  bytesTx : UInt64
  bytesRx : UInt64
  devNameHash : UInt64
  deriving DecidableEq, Repr, Inhabited

/-- `fnv1a_64_hash`, textually the one of `cpu_sched.bpf.c`. -/
def fnv1a64Hash (str : Comm) : UInt64 := fnv1a64HashLoop 0xcbf29ce484222325 str.toList

/-- The fields of `trace_event_raw_net_dev_xmit` that are read; `none` when reading the name
faults. -/
structure NetDevXmit where
  len : UInt32
  name : Option (Vector Int8 32)
  deriving DecidableEq, Repr

/-- What `bpf_probe_read_kernel_str` can see of a `char[32]`: it stops after the 16 bytes of
its destination. -/
def firstBytes (name : Vector Int8 32) : Comm :=
  Vector.ofFn fun index => name.get (index.castLE (by decide))

/-- `handle_net_dev_xmit`. -/
def handleNetDevXmit (reserved : Bool) (args : NetDevXmit) : Option NetIoEvent :=
  if !reserved then none
  else
    some
      { bytesTx := args.len.toUInt64
        bytesRx := 0
        devNameHash := fnv1a64Hash (probeReadKernelStr (args.name.map firstBytes)) }

end NetIo

/-! ## What is submitted -/

/-- The structure as the conductor will read it. -/
def CpuSchedEvent.record (event : CpuSchedEvent) : BpfRecord :=
  .cpuSched
    { prevCommHash := event.prevCommHash, nextCommHash := event.nextCommHash
      latencyNs := event.latencyNs, cpuId := event.cpuId }

/-- The structure as the conductor will read it. -/
def MemPressureEvent.record (event : MemPressureEvent) : BpfRecord :=
  .memPressure { pagesReclaimed := event.pagesReclaimed, zone := event.zone }

/-- The structure as the conductor will read it. -/
def NetIo.NetIoEvent.record (event : NetIo.NetIoEvent) : BpfRecord :=
  .netIo
    { bytesTx := event.bytesTx, bytesRx := event.bytesRx, devNameHash := event.devNameHash }

/-- The structure as the conductor will read it. -/
def ProcLifecycle.ProcLifecycleEvent.record (event : ProcLifecycle.ProcLifecycleEvent) :
    BpfRecord :=
  .procLifecycle { commHash := event.commHash, uidHash := event.uidHash }

/-- A tracepoint fires: its arguments, and what the kernel decides. -/
inductive TracepointHit where
  | schedWakeup (args : SchedWakeup) (ts : UInt64) (accepted : Bool)
  | schedSwitch (args : SchedSwitch) (now : UInt64) (reserved : Bool) (cpu : UInt32)
  | schedProcessExit (args : SchedProcessExit)
  | mmVmscan (args : ShrinkInactive) (reserved : Bool)
  | netDevXmit (args : NetIo.NetDevXmit) (reserved : Bool)
  | processExec (comm : Comm) (uidGid : UInt64) (reserved : Bool)
  deriving DecidableEq, Repr

/-- The handler that is attached to the tracepoint: `wakeup_timestamps` afterwards, and the
structure that is submitted. -/
def fire (map : WakeupTimestamps) : TracepointHit → WakeupTimestamps × Option BpfRecord
  | .schedWakeup args ts accepted => (handleSchedWakeup map args ts accepted, none)
  | .schedSwitch args now reserved cpu =>
      ((handleSchedSwitch map args now reserved cpu).1,
        (handleSchedSwitch map args now reserved cpu).2.map CpuSchedEvent.record)
  | .schedProcessExit args => (handleProcessExit map args, none)
  | .mmVmscan args reserved => (map, (handleMmVmscan reserved args).map MemPressureEvent.record)
  | .netDevXmit args reserved =>
      (map, (NetIo.handleNetDevXmit reserved args).map NetIo.NetIoEvent.record)
  | .processExec comm uidGid reserved =>
      (map, (ProcLifecycle.handleProcessExec reserved comm uidGid).map
        ProcLifecycle.ProcLifecycleEvent.record)

/-- A structure on the transmitting side never counts received bytes. -/
theorem bytesRx_of_fire {map : WakeupTimestamps} {tracepoint : TracepointHit}
    {event : NetIoBpfEvent} (h : (fire map tracepoint).2 = some (.netIo event)) : event.bytesRx = 0 := by
  cases tracepoint with
  | netDevXmit args reserved =>
      cases reserved with
      | false => simp [fire, NetIo.handleNetDevXmit] at h
      | true =>
          simp only [fire, NetIo.handleNetDevXmit, NetIo.NetIoEvent.record, Bool.not_true,
            Bool.false_eq_true, if_false, Option.map_some, Option.some.injEq,
            BpfRecord.netIo.injEq] at h
          rw [← h]
  | schedWakeup args ts accepted => cases h
  | schedProcessExit args => cases h
  | schedSwitch args now reserved cpu =>
      obtain ⟨submitted, _, hrecord⟩ := Option.map_eq_some_iff.mp h
      cases hrecord
  | mmVmscan args reserved =>
      obtain ⟨submitted, _, hrecord⟩ := Option.map_eq_some_iff.mp h
      cases hrecord
  | processExec comm uidGid reserved =>
      obtain ⟨submitted, _, hrecord⟩ := Option.map_eq_some_iff.mp h
      cases hrecord

end DaemonChoir.Kernel
