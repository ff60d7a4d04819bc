set_option autoImplicit false

/-!
# Common: raw events (`daemon-choir-common/src/events.rs`)

The records that travel from the probes to the aggregator and into the `events`
table.  Every integer keeps its width: the sums of the aggregator wrap at 64 bits.
-/

namespace DaemonChoir.Common

/-- `ProbeId`. -/
inductive ProbeId where
  | cpuSched
  | memPressure
  | netIo
  | procLifecycle
  deriving DecidableEq, Repr, Inhabited

/-- `impl Display for ProbeId`. -/
def ProbeId.toString : ProbeId → String
  | .cpuSched => "cpu_sched"
  | .memPressure => "mem_pressure"
  | .netIo => "net_io"
  | .procLifecycle => "proc_lifecycle"

/-- `CpuSchedEvent`. -/
structure CpuSchedEvent where
  prevCommHash : UInt64
  nextCommHash : UInt64
  latencyNs : UInt64
  cpuId : UInt32
  deriving DecidableEq, Repr, Inhabited

/-- `MemPressureEvent`. -/
structure MemPressureEvent where
  pagesReclaimed : UInt64
  zone : UInt32
  deriving DecidableEq, Repr, Inhabited

/-- `NetIoEvent`. -/
structure NetIoEvent where
  bytesTx : UInt64
  bytesRx : UInt64
  devNameHash : UInt64
  deriving DecidableEq, Repr, Inhabited

/-- `ProcLifecycleEvent`. -/
structure ProcLifecycleEvent where
  commHash : UInt64
  uidHash : UInt64
  deriving DecidableEq, Repr, Inhabited

/-- `EventPayload`. -/
inductive EventPayload where
  | cpuSched (event : CpuSchedEvent)
  | memPressure (event : MemPressureEvent)
  | netIo (event : NetIoEvent)
  | procLifecycle (event : ProcLifecycleEvent)
  deriving DecidableEq, Repr, Inhabited

/-- `RawEvent`. -/
structure RawEvent where
  probe : ProbeId
  timestampNs : UInt64
  payload : EventPayload
  deriving DecidableEq, Repr, Inhabited

/-- `fnv1a_64`. -/
def fnv1a64 (data : List UInt8) : UInt64 :=
  data.foldl (fun hash b => (hash ^^^ b.toUInt64) * 0x100000001b3) 0xcbf29ce484222325

/-! ## JSON text of a payload

`serde_json::to_string` on the derived `Serialize`: an externally tagged object
with the fields in declaration order. -/

/-- One JSON object from its fields, all of them unsigned integers. -/
def jsonObject (tag : String) (fields : List (String × Nat)) : String :=
  "\x7b\"" ++ tag ++ "\":\x7b" ++
    String.intercalate ","
      (fields.map fun field => "\"" ++ field.1 ++ "\":" ++ Nat.repr field.2) ++
    "\x7d\x7d"

/-- `serde_json::to_string(&event.payload)`. -/
def EventPayload.toJson : EventPayload → String
  | .cpuSched e =>
      jsonObject "CpuSched"
        [("prev_comm_hash", e.prevCommHash.toNat),
          ("next_comm_hash", e.nextCommHash.toNat),
          ("latency_ns", e.latencyNs.toNat), ("cpu_id", e.cpuId.toNat)]
  | .memPressure e =>
      jsonObject "MemPressure"
        [("pages_reclaimed", e.pagesReclaimed.toNat), ("zone", e.zone.toNat)]
  | .netIo e =>
      jsonObject "NetIo"
        [("bytes_tx", e.bytesTx.toNat), ("bytes_rx", e.bytesRx.toNat),
          ("dev_name_hash", e.devNameHash.toNat)]
  | .procLifecycle e =>
      jsonObject "ProcLifecycle"
        [("comm_hash", e.commHash.toNat), ("uid_hash", e.uidHash.toNat)]

end DaemonChoir.Common
