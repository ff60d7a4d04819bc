import DaemonChoir.Kernel.CpuSched
set_option autoImplicit false

/-!
# Kernel: the process probe (`ebpf-programs/proc_lifecycle.bpf.c`)

The program has its own copy of `fnv1a_64_hash`, and an unrolled one for the four bytes
of a user id.
-/

namespace DaemonChoir.Kernel.ProcLifecycle

/-- `struct proc_lifecycle_event`. -/
structure ProcLifecycleEvent where
  commHash : UInt64
  uidHash : UInt64
  deriving DecidableEq, Repr, Inhabited

/-- `fnv1a_64_hash`, textually the one of `cpu_sched.bpf.c`. -/
def fnv1a64Hash (str : Comm) : UInt64 := fnv1a64HashLoop 0xcbf29ce484222325 str.toList

/-- `fnv1a_64_hash_u32`. -/
def fnv1a64HashU32 (val : UInt32) : UInt64 :=
  let hash := 0xcbf29ce484222325
  let hash := hash ^^^ (val &&& 0xFF).toUInt64
  let hash := hash * 0x100000001b3
  let hash := hash ^^^ ((val >>> 8) &&& 0xFF).toUInt64
  let hash := hash * 0x100000001b3
  let hash := hash ^^^ ((val >>> 16) &&& 0xFF).toUInt64
  let hash := hash * 0x100000001b3
  let hash := hash ^^^ ((val >>> 24) &&& 0xFF).toUInt64
  let hash := hash * 0x100000001b3
  hash

/-- `handle_process_exec`.  Whether the ring buffer has room, the name that
`bpf_get_current_comm` copies and the ids that `bpf_get_current_uid_gid` returns are
inputs. -/
def handleProcessExec (reserved : Bool) (comm : Comm) (uidGid : UInt64) :
    Option ProcLifecycleEvent :=
  if !reserved then none
  else
    let uid := (uidGid &&& 0xFFFFFFFF).toUInt32
    some { commHash := fnv1a64Hash comm, uidHash := fnv1a64HashU32 uid }

end DaemonChoir.Kernel.ProcLifecycle
