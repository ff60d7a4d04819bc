import DaemonChoir.Common.Events
import DaemonChoir.Foundation.Bytes
set_option autoImplicit false

/-!
# Common: the records of the ring buffers (`daemon-choir-common/src/events.rs`)

The structures that the eBPF programs write and the conductor reads, with their C layout:
fields in order, each at a multiple of its width, and the size a multiple of eight.  Only
the two structures that end in a `u32` have padding, four bytes at the end.
-/

namespace DaemonChoir.Common

open DaemonChoir.Foundation

/-- `CpuSchedBpfEvent`. -/
structure CpuSchedBpfEvent where
  prevCommHash : UInt64
  nextCommHash : UInt64
  latencyNs : UInt64
  cpuId : UInt32
  deriving DecidableEq, Repr, Inhabited

/-- `MemPressureBpfEvent`. -/
structure MemPressureBpfEvent where
  pagesReclaimed : UInt64
  zone : UInt32
  deriving DecidableEq, Repr, Inhabited

/-- `NetIoBpfEvent`. -/
structure NetIoBpfEvent where
  bytesTx : UInt64
  bytesRx : UInt64
  devNameHash : UInt64
  deriving DecidableEq, Repr, Inhabited

/-- `ProcLifecycleBpfEvent`. -/
structure ProcLifecycleBpfEvent where
  commHash : UInt64
  uidHash : UInt64
  deriving DecidableEq, Repr, Inhabited

/-- `size_of` of the structure of a probe, as the assertions of the source have it. -/
def ProbeId.recordSize : ProbeId → Nat
  | .cpuSched => 32
  | .memPressure => 16
  | .netIo => 24
  | .procLifecycle => 16

/-! ## Reading -/

/-- The structure at the start of a byte string. -/
def CpuSchedBpfEvent.read (bytes : List UInt8) : CpuSchedBpfEvent where
  prevCommHash := u64At 0 bytes
  nextCommHash := u64At 8 bytes
  latencyNs := u64At 16 bytes
  cpuId := u32At 24 bytes

/-- The structure at the start of a byte string. -/
def MemPressureBpfEvent.read (bytes : List UInt8) : MemPressureBpfEvent where
  pagesReclaimed := u64At 0 bytes
  zone := u32At 8 bytes

/-- The structure at the start of a byte string. -/
def NetIoBpfEvent.read (bytes : List UInt8) : NetIoBpfEvent where
  bytesTx := u64At 0 bytes
  bytesRx := u64At 8 bytes
  devNameHash := u64At 16 bytes

/-- The structure at the start of a byte string. -/
def ProcLifecycleBpfEvent.read (bytes : List UInt8) : ProcLifecycleBpfEvent where
  commHash := u64At 0 bytes
  uidHash := u64At 8 bytes

/-! ## Images -/

/-- A structure of one of the four probes. -/
inductive BpfRecord where
  | cpuSched (event : CpuSchedBpfEvent)
  | memPressure (event : MemPressureBpfEvent)
  | netIo (event : NetIoBpfEvent)
  | procLifecycle (event : ProcLifecycleBpfEvent)
  deriving DecidableEq, Repr, Inhabited

namespace BpfRecord

/-- The probe that writes such structures. -/
def probe : BpfRecord → ProbeId
  | .cpuSched _ => .cpuSched
  | .memPressure _ => .memPressure
  | .netIo _ => .netIo
  | .procLifecycle _ => .procLifecycle

/-- The bytes of the fields, in C layout. -/
def fieldBytes : BpfRecord → List UInt8
  | .cpuSched e =>
      u64Bytes e.prevCommHash ++
        (u64Bytes e.nextCommHash ++ (u64Bytes e.latencyNs ++ u32Bytes e.cpuId))
  | .memPressure e => u64Bytes e.pagesReclaimed ++ u32Bytes e.zone
  | .netIo e => u64Bytes e.bytesTx ++ (u64Bytes e.bytesRx ++ u64Bytes e.devNameHash)
  | .procLifecycle e => u64Bytes e.commHash ++ u64Bytes e.uidHash

/-! Reading the fields back, whatever bytes follow. -/

theorem read_cpuSched (e : CpuSchedBpfEvent) (rest : List UInt8) :
    CpuSchedBpfEvent.read (fieldBytes (.cpuSched e) ++ rest) = e := by
  simp [CpuSchedBpfEvent.read, fieldBytes, u64At_zero, u64At_skip, u32At_skip, u32At_zero]

theorem read_memPressure (e : MemPressureBpfEvent) (rest : List UInt8) :
    MemPressureBpfEvent.read (fieldBytes (.memPressure e) ++ rest) = e := by
  simp [MemPressureBpfEvent.read, fieldBytes, u64At_zero, u32At_skip, u32At_zero]

theorem read_netIo (e : NetIoBpfEvent) (rest : List UInt8) :
    NetIoBpfEvent.read (fieldBytes (.netIo e) ++ rest) = e := by
  simp [NetIoBpfEvent.read, fieldBytes, u64At_zero, u64At_skip]

theorem read_procLifecycle (e : ProcLifecycleBpfEvent) (rest : List UInt8) :
    ProcLifecycleBpfEvent.read (fieldBytes (.procLifecycle e) ++ rest) = e := by
  simp [ProcLifecycleBpfEvent.read, fieldBytes, u64At_zero, u64At_skip]

/-- The byte string is an image of the structure: its fields, and any bytes up to the size
of the structure. -/
def IsImage (record : BpfRecord) (bytes : List UInt8) : Prop :=
  ∃ padding : List UInt8, bytes = record.fieldBytes ++ padding ∧
    bytes.length = record.probe.recordSize

/-- The payload with the same fields. -/
def payload : BpfRecord → EventPayload
  | .cpuSched e =>
      .cpuSched
        { prevCommHash := e.prevCommHash, nextCommHash := e.nextCommHash
          latencyNs := e.latencyNs, cpuId := e.cpuId }
  | .memPressure e => .memPressure { pagesReclaimed := e.pagesReclaimed, zone := e.zone }
  | .netIo e =>
      .netIo { bytesTx := e.bytesTx, bytesRx := e.bytesRx, devNameHash := e.devNameHash }
  | .procLifecycle e => .procLifecycle { commHash := e.commHash, uidHash := e.uidHash }

end BpfRecord

end DaemonChoir.Common
