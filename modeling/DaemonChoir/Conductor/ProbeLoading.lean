import DaemonChoir.Conductor.ProbeManager
import Mathlib.Data.List.Basic
set_option autoImplicit false

/-!
# Conductor: how probes are started (`ProbeManager::start`)

Every enabled probe is first tried as an eBPF probe and started as a simulator when that
fails.  Both ways set the same flag, so the flag and the error count that `main` derives
from it say nothing about the kernel.
-/

namespace DaemonChoir.Conductor

/-- `ProbeStats`. -/
structure ProbeStats where
  name : String
  attachPoint : String
  loaded : Bool
  eventsTotal : UInt64
  eventsLost : UInt64
  lastEventUs : UInt64
  deriving DecidableEq, Repr, Inhabited

/-- `attach_point` of `ProbeManager::new`. -/
def attachPointOf (name : String) : String :=
  match name with
  | "cpu_sched" => "tracepoint/sched/sched_switch"
  | "mem_pressure" => "tracepoint/vmscan/mm_vmscan_shrink_inactive_to_succ"
  | "net_io" => "tracepoint/net/net_dev_xmit"
  | "proc_lifecycle" => "tracepoint/sched/sched_process_exec"
  | _ => "unknown"

/-- The probes of `ProbeManager::new`. -/
def newProbes (enabledProbes : List String) : List ProbeStats :=
  enabledProbes.map fun name =>
    { name := name, attachPoint := attachPointOf name, loaded := false
      eventsTotal := 0, eventsLost := 0, lastEventUs := 0 }

/-! ## Loading and attaching -/

/-- What the kernel makes of a program of an ELF file. -/
structure Program where
  /-- `try_into::<&mut TracePoint>` -/
  isTracePoint : Bool
  /-- `load` -/
  loads : Bool
  /-- `attach(category, tp_name)` -/
  attaches : String → String → Bool

/-- An ELF file that `Bpf::load_file` has loaded: its programs by name. -/
abbrev Bpf : Type := String → Option Program

/-- A program and the tracepoint it belongs to. -/
structure Tracepoint where
  category : String
  progName : String
  tpName : String
  deriving DecidableEq, Repr, Inhabited

/-- `(category, prog_name, tp_name)`. -/
def primaryOf (name : String) : Tracepoint :=
  match name with
  | "cpu_sched" => ⟨"sched", "handle_sched_switch", "sched_switch"⟩
  | "mem_pressure" => ⟨"vmscan", "handle_mm_vmscan", "mm_vmscan_shrink_inactive_to_succ"⟩
  | "net_io" => ⟨"net", "handle_net_dev_xmit", "net_dev_xmit"⟩
  | "proc_lifecycle" => ⟨"sched", "handle_process_exec", "sched_process_exec"⟩
  | _ => ⟨"", "", ""⟩

/-- The secondary program that measures from the wakeup. -/
def wakeupTracepoint : Tracepoint := ⟨"sched", "handle_sched_wakeup", "sched_wakeup"⟩

/-- The secondary program that cleans up. -/
def exitTracepoint : Tracepoint := ⟨"sched", "handle_process_exit", "sched_process_exit"⟩

/-- Find, convert, load and attach one program. -/
def attachProgram (bpf : Bpf) (tracepoint : Tracepoint) : Except String Unit :=
  match bpf tracepoint.progName with
  | none => .error "Program not found"
  | some program =>
      if !program.isTracePoint then .error "Conversion failed"
      else if !program.loads then .error "Load failed"
      else if !program.attaches tracepoint.category tracepoint.tpName then
        .error "Attach failed"
      else .ok ()

/-- `attach_and_spawn_res`. -/
def attachAndSpawn (name : String) (bpf : Bpf) : Except String Unit := do
  attachProgram bpf (primaryOf name)
  if name = "cpu_sched" then
    attachProgram bpf wakeupTracepoint
    attachProgram bpf exitTracepoint

/-- `bpf_loaded` of an iteration of `start`, with the outcome of `Bpf::load_file`. -/
def bpfLoaded (ebpfFeature simulate : Bool) (loadFile : Option Bpf) (name : String) : Bool :=
  match ebpfFeature && !simulate, loadFile with
  | true, some bpf => (attachAndSpawn name bpf).isOk
  | _, _ => false

/-- The iteration: the probe afterwards and the task that was spawned for it. -/
def startProbe (ebpfFeature simulate : Bool) (loadFile : Option Bpf) (probe : ProbeStats) :
    ProbeStats × ProbeKind :=
  if bpfLoaded ebpfFeature simulate loadFile probe.name then
    ({ probe with loaded := true }, .ebpf)
  -- the fallback to the simulator sets the flag as well
  else ({ probe with loaded := true }, .simulated)

/-- `ProbeManager::start`; `loadFile` gives the outcome of each iteration. -/
def start (ebpfFeature simulate : Bool) (loadFile : ℕ → Option Bpf)
    (probes : List ProbeStats) : List (ProbeStats × ProbeKind) :=
  probes.mapIdx fun position probe =>
    startProbe ebpfFeature simulate (loadFile position) probe

/-- `get_probes_info` after `start`. -/
def probesInfo (ebpfFeature simulate : Bool) (loadFile : ℕ → Option Bpf)
    (enabledProbes : List String) : List ProbeStats :=
  (start ebpfFeature simulate loadFile (newProbes enabledProbes)).map Prod.fst

/-- What `main` stores in `probe_load_errors_total`. -/
def probeLoadErrorsTotal (probesStats : List ProbeStats) : UInt64 :=
  let loadedCount := probesStats.countP fun probe => probe.loaded
  let failedCount := probesStats.length - loadedCount
  UInt64.ofNat failedCount

/-- `lifecycle_state` of `handle_status`. -/
def lifecycleState (probesStats : List ProbeStats) : String :=
  if probesStats.countP (fun probe => probe.loaded) = 0 then "degraded" else "running"

/-! ## What it takes to load a probe -/

/-- All the programs of a probe. -/
def programsOf (name : String) : List Tracepoint :=
  if name = "cpu_sched" then [primaryOf name, wakeupTracepoint, exitTracepoint]
  else [primaryOf name]

/-- The program was found, converted, loaded and attached. -/
def Attached (bpf : Bpf) (tracepoint : Tracepoint) : Prop :=
  ∃ program, bpf tracepoint.progName = some program ∧ program.isTracePoint = true ∧
    program.loads = true ∧
    program.attaches tracepoint.category tracepoint.tpName = true

/-- The ELF file was loaded and all programs of the probe attached. -/
def FullyAttached (name : String) (loadFile : Option Bpf) : Prop :=
  ∃ bpf, loadFile = some bpf ∧ ∀ tracepoint ∈ programsOf name, Attached bpf tracepoint

theorem attachProgram_isOk_iff (bpf : Bpf) (tracepoint : Tracepoint) :
    (attachProgram bpf tracepoint).isOk = true ↔ Attached bpf tracepoint := by
  unfold attachProgram Attached
  cases hprogram : bpf tracepoint.progName with
  | none => simp [Except.isOk, Except.toBool]
  | some program =>
      cases hconvert : program.isTracePoint <;> cases hload : program.loads <;>
        cases hattach : program.attaches tracepoint.category tracepoint.tpName <;>
        simp [Except.isOk, Except.toBool, hconvert, hload, hattach]

theorem attachAndSpawn_isOk_iff (name : String) (bpf : Bpf) :
    (attachAndSpawn name bpf).isOk = true ↔
      ∀ tracepoint ∈ programsOf name, Attached bpf tracepoint := by
  have hbind : ∀ first second : Except String Unit,
      (first >>= fun _ => second).isOk = true ↔ first.isOk = true ∧ second.isOk = true := by
    intro first second
    cases first with
    | error _ => simp [bind, Except.bind, Except.isOk, Except.toBool]
    | ok _ => simp [bind, Except.bind, Except.isOk, Except.toBool]
  unfold attachAndSpawn programsOf
  by_cases hname : name = "cpu_sched"
  · simp only [hname, if_true, hbind, attachProgram_isOk_iff, List.forall_mem_cons]
    simp
  · simp only [hname, if_false, hbind, attachProgram_isOk_iff, List.forall_mem_cons]
    simp [pure, Except.pure, Except.isOk, Except.toBool]

theorem bpfLoaded_iff (loadFile : Option Bpf) (name : String) :
    bpfLoaded true false loadFile name = true ↔ FullyAttached name loadFile := by
  unfold bpfLoaded FullyAttached
  cases loadFile with
  | none => simp
  | some bpf => simpa using attachAndSpawn_isOk_iff name bpf

theorem startProbe_ebpf_iff (loadFile : Option Bpf) (probe : ProbeStats) :
    (startProbe true false loadFile probe).2 = .ebpf ↔ FullyAttached probe.name loadFile := by
  rw [← bpfLoaded_iff]
  unfold startProbe
  split
  · rename_i hloaded
    simp [hloaded]
  · rename_i hloaded
    simp [hloaded]

/-- Whatever happens, the flag is set. -/
theorem startProbe_loaded (ebpfFeature simulate : Bool) (loadFile : Option Bpf)
    (probe : ProbeStats) :
    (startProbe ebpfFeature simulate loadFile probe).1.loaded = true := by
  unfold startProbe
  split <;> rfl

instance (bpf : Bpf) (tracepoint : Tracepoint) : Decidable (Attached bpf tracepoint) :=
  decidable_of_iff _ (attachProgram_isOk_iff bpf tracepoint)

instance (name : String) (loadFile : Option Bpf) : Decidable (FullyAttached name loadFile) :=
  decidable_of_iff _ (bpfLoaded_iff loadFile name)

/-! ## What is reported -/

section Reports

variable (ebpfFeature simulate : Bool) (loadFile : ℕ → Option Bpf)
  (enabledProbes : List String)

theorem probesInfo_loaded :
    ∀ probe ∈ probesInfo ebpfFeature simulate loadFile enabledProbes,
      probe.loaded = true := by
  intro probe hmem
  unfold probesInfo start at hmem
  obtain ⟨started, hstarted, rfl⟩ := List.mem_map.mp hmem
  obtain ⟨position, hposition, rfl⟩ := List.mem_mapIdx.mp hstarted
  exact startProbe_loaded ..

theorem probesInfo_getElem? {position : ℕ} {name : String}
    (h : enabledProbes[position]? = some name) :
    ∃ probe, (probesInfo ebpfFeature simulate loadFile enabledProbes)[position]? =
      some probe := by
  simp [probesInfo, start, newProbes, h]

theorem probeLoadErrorsTotal_eq_zero :
    probeLoadErrorsTotal (probesInfo ebpfFeature simulate loadFile enabledProbes) = 0 := by
  have hall := List.countP_eq_length.mpr
    (probesInfo_loaded ebpfFeature simulate loadFile enabledProbes)
  unfold probeLoadErrorsTotal
  simp only [hall, Nat.sub_self]
  rfl

/-- The daemon is never degraded while a probe is enabled. -/
theorem lifecycleState_eq (h : enabledProbes ≠ []) :
    lifecycleState (probesInfo ebpfFeature simulate loadFile enabledProbes) = "running" := by
  have hall := List.countP_eq_length.mpr
    (probesInfo_loaded ebpfFeature simulate loadFile enabledProbes)
  have hlength : (probesInfo ebpfFeature simulate loadFile enabledProbes).length =
      enabledProbes.length := by
    simp [probesInfo, start, newProbes]
  have hpos := List.length_pos_iff.mpr h
  unfold lifecycleState
  rw [hall, hlength, if_neg (by omega)]

/-- How many of the enabled probes have a program that was not attached. -/
def loadFailures : Nat :=
  enabledProbes.zipIdx.countP fun entry => ¬ FullyAttached entry.1 (loadFile entry.2)

/-- Failures to load are reported: flag by flag, and in the error count. -/
structure FailuresReported : Prop where
  loaded : ∀ position name, enabledProbes[position]? = some name →
    ∃ probe, (probesInfo true false loadFile enabledProbes)[position]? = some probe ∧
      (probe.loaded = true ↔ FullyAttached name (loadFile position))
  errors : (probeLoadErrorsTotal (probesInfo true false loadFile enabledProbes)).toNat =
    loadFailures loadFile enabledProbes

/-- Failures to load are reported exactly when there are none. -/
theorem failuresReported_iff :
    FailuresReported loadFile enabledProbes ↔
      ∀ position name, enabledProbes[position]? = some name →
        FullyAttached name (loadFile position) := by
  constructor
  · intro reported position name hname
    obtain ⟨probe, hprobe, hiff⟩ := reported.loaded position name hname
    apply hiff.mp
    exact probesInfo_loaded true false loadFile enabledProbes probe
      (List.mem_of_getElem? hprobe)
  · intro hall
    constructor
    · intro position name hname
      obtain ⟨probe, hprobe⟩ := probesInfo_getElem? true false loadFile enabledProbes hname
      have hloaded := probesInfo_loaded true false loadFile enabledProbes probe
        (List.mem_of_getElem? hprobe)
      exact ⟨probe, hprobe, iff_of_true hloaded (hall position name hname)⟩
    · have hnone : loadFailures loadFile enabledProbes = 0 := by
        unfold loadFailures
        rw [List.countP_eq_zero]
        intro entry hmem
        have hname := List.mk_mem_zipIdx_iff_getElem?.mp hmem
        simpa using hall entry.2 entry.1 hname
      rw [probeLoadErrorsTotal_eq_zero, hnone]
      rfl

end Reports

/-- An ELF file in which every program can be attached. -/
def workingBpf : Bpf := fun _ =>
  some { isTracePoint := true, loads := true, attaches := fun _ _ => true }

/-- When everything can be attached the report is right. -/
theorem failuresReported_working :
    FailuresReported (fun _ => some workingBpf) ["cpu_sched", "net_io"] := by
  apply (failuresReported_iff _ _).mpr
  intro position name _
  refine ⟨workingBpf, rfl, fun tracepoint _ => ?_⟩
  exact ⟨_, rfl, rfl, rfl, rfl⟩

/-- The ELF file is missing, and the report is that of a loaded probe. -/
theorem failures_not_always_reported :
    ¬ ∀ (loadFile : ℕ → Option Bpf) (enabledProbes : List String),
      FailuresReported loadFile enabledProbes := by
  intro hclaim
  have hreported := (hclaim (fun _ => none) ["cpu_sched"]).errors
  exact absurd hreported (by decide)

end DaemonChoir.Conductor
